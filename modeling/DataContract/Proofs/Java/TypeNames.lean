/-
Names of types in paths and heads.

The name of a type goes into the path of its file and into the line that opens
it.  Both stay on one line if the name is an identifier: one of the letters `A`
to `Z` and `a` to `z` or an underscore, and word characters after it.  The end
mark of the pattern for names also stands before a line feed at the end of a
text, so a name can have one line feed after an identifier, and then the path and
the head are broken.  It is shown here that there are no other names.
-/
import DataContract.Proofs.Java.Balance
import DataContract.Proofs.Model.Acceptance
import DataContract.Proofs.Model.Names
import DataContract.Proofs.Text.Range

namespace DataContract

open DataContract.Java (Writer TypeHead headOf)
open DataContract.Text

/-- A letter of the Latin alphabet or an underscore, and word characters after it. -/
def IsIdentifier (s : String) : Prop :=
  Pattern.Headed Pattern.isNameStart isWord s.toList

namespace IsIdentifier

lemma isWord_of_mem {s : String} (h : IsIdentifier s) : ∀ c ∈ s.toList, isWord c = true := by
  obtain ⟨first, rest, hs, hfirst, hrest⟩ := h
  have hword : isWord first = true := by
    simp [isWord, Pattern.isAsciiWord_of_isNameStart hfirst]
  rw [hs]
  exact List.forall_mem_cons.mpr ⟨hword, hrest⟩

/-- An identifier stays on one line, since line breaks are blank and no word character is. -/
lemma oneLine {s : String} (h : IsIdentifier s) : OneLine s := by
  intro c hc
  by_contra hbreak
  rw [Bool.not_eq_false] at hbreak
  have hword := isWord_of_isBlank (isBlank_of_isLineBreak hbreak)
  rw [h.isWord_of_mem c hc] at hword
  cases hword

end IsIdentifier

lemma not_oneLine_append_lineFeed (s : String) : ¬ OneLine (s ++ "\n") := by
  intro h
  have hbreak := h '\n' (by simp)
  revert hbreak
  decide

/-- What matches the pattern for names of types: an identifier, and a line feed may follow. -/
lemma Pattern.typeName_matches_iff {s : String} :
    Pattern.typeName.Matches s ↔ IsIdentifier s ∨ ∃ b, IsIdentifier b ∧ s = b ++ "\n" := by
  constructor
  · rintro ⟨b, hb, rfl | hs⟩
    · exact .inl hb
    · refine .inr ⟨String.ofList b, ?_, ?_⟩
      · rw [IsIdentifier, String.toList_ofList]
        exact hb
      · rw [← String.toList_inj, hs]
        simp
  · rintro (h | ⟨b, hb, rfl⟩)
    · exact ⟨s.toList, h, .inl rfl⟩
    · exact ⟨b.toList, hb, .inr (by simp)⟩

/-- A name that matches stays on one line exactly if it is an identifier. -/
lemma Pattern.Matches.oneLine_iff {s : String} (h : Pattern.typeName.Matches s) :
    OneLine s ↔ IsIdentifier s := by
  refine ⟨fun hline => ?_, IsIdentifier.oneLine⟩
  obtain hid | ⟨b, -, rfl⟩ := Pattern.typeName_matches_iff.mp h
  · exact hid
  · exact absurd hline (not_oneLine_append_lineFeed b)

/-! ### Paths and heads -/

/-- The path of a file breaks exactly where its directory or the name of its type does. -/
lemma oneLine_outputPath_iff {config : Config} {name : String} :
    OneLine (Writer.outputPath config name) ↔ OneLine config.packageDirectory ∧ OneLine name := by
  have hslash : OneLine "/" := oneLine_ofList rfl
  have hsuffix : OneLine ".java" := oneLine_ofList rfl
  simp [Writer.outputPath, oneLine_append, hslash, hsuffix]

lemma oneLine_line_iff {indent : String} {h : TypeHead} :
    OneLine (h.line indent) ↔
      OneLine indent ∧ OneLine h.keywords ∧ OneLine h.name ∧ ∀ b ∈ h.base, OneLine b := by
  have hspace : OneLine " " := oneLine_ofList rfl
  have hextends : OneLine " extends " := oneLine_ofList rfl
  have hbrace : OneLine Java.openBrace := oneLine_ofList rfl
  obtain ⟨documentation, keywords, name, base⟩ := h
  cases base with
  | none => simp [TypeHead.line, TypeHead.opening, oneLine_append, hspace, hbrace, and_assoc]
  | some base =>
    simp [TypeHead.line, TypeHead.opening, oneLine_append, hspace, hextends, hbrace, and_assoc]

lemma name_headOf (isNested : Bool) (d : Declaration) : (headOf isNested d).name = d.name := by
  rw [headOf]
  split <;> rfl

lemma oneLine_keywords_headOf (isNested : Bool) (d : Declaration) :
    OneLine (headOf isNested d).keywords := by
  have henum : OneLine "public enum" := oneLine_ofList rfl
  have hclass : OneLine "public class" := oneLine_ofList rfl
  have hstatic : OneLine "public static class" := oneLine_ofList rfl
  rw [headOf]
  split
  · exact henum
  · change OneLine (if _ then _ else _)
    split
    · exact hstatic
    · exact hclass

/-- The line that opens a type breaks exactly where its indent, its base or its name does. -/
lemma oneLine_headOf_iff {isNested : Bool} {d : Declaration} {indent : String} :
    OneLine ((headOf isNested d).line indent) ↔
      OneLine indent ∧ (∀ b ∈ (headOf isNested d).base, OneLine b) ∧ OneLine d.name := by
  rw [oneLine_line_iff, name_headOf]
  constructor
  · rintro ⟨hindent, -, hname, hbase⟩
    exact ⟨hindent, hbase, hname⟩
  · rintro ⟨hindent, hbase, hname⟩
    exact ⟨hindent, oneLine_keywords_headOf isNested d, hname, hbase⟩

namespace Model

/-! ### Every name that matches occurs -/

/-- The type object that says only its name and where it comes from. -/
def typeNaming (name : String) : Value :=
  .map [(.str "name", .str name), (.str "source_file", .str "Port.cs")]

/-- The document of one type, of which it says only the name and where it comes from. -/
def documentNaming (name : String) : Value :=
  .map [(.str "ir_version", .str "1.0"), (.str "namespace", .str "Tunnels"),
    (.str "types", .list [typeNaming name])]

lemma isJson_documentNaming (name : String) : (documentNaming name).IsJson := by
  simp [documentNaming, typeNaming]

lemma isType_typeNaming {name : String} (h : Pattern.typeName.Matches name) :
    (typeNaming name).IsType := by
  refine Value.isType_iff.mpr ⟨⟨⟨_, rfl, _, rfl, h⟩, ?_, ?_, ?_, ?_, ?_, ?_⟩, ?_⟩
  all_goals
    intro x hx
    cases hx
  exact ⟨_, rfl⟩

lemma isDocument_documentNaming {name : String} (h : Pattern.typeName.Matches name) :
    (documentNaming name).IsDocument [typeNaming name] := by
  have hversion : Pattern.version.Matches "1.0" := Pattern.fits_iff.mp (by decide +kernel)
  refine ⟨⟨_, rfl, _, rfl, hversion⟩, ⟨_, rfl, _, rfl, by decide⟩, rfl, ?_, ?_, ?_, ?_⟩
  · rw [List.forall_mem_singleton]
    exact isType_typeNaming h
  · rw [List.forall_mem_singleton]
    exact ⟨_, rfl, _, rfl, by decide⟩
  · exact List.nodup_singleton _
  · rw [List.forall_mem_singleton]
    intro u hu s hs
    cases hu with
    | self =>
      cases hs
      decide
    | nested hitems => cases hitems

/-- A document that is read names a type so, at some depth. -/
def OccursAsTypeName (name : String) : Prop :=
  ∃ v m, ofValue v = .ok m ∧ ∃ u ∈ ContractType.walkAll m.types, u.name = name

lemma occursAsTypeName_of_matches {name : String} (h : Pattern.typeName.Matches name) :
    OccursAsTypeName name := by
  have hversion : (documentNaming name).HasSupportedVersion := ⟨"1.0", ['0'], rfl, rfl⟩
  obtain ⟨m, hm⟩ := (ofValue_of_document (isJson_documentNaming name)
    (isDocument_documentNaming h)).1 hversion
  refine ⟨_, m, hm, ?_⟩
  obtain ⟨es, hes, -, -, -, hread⟩ := ofValue_eq_ok hm
  cases hes
  have hnames : m.types.map ContractType.name = [name] := readTypes_names hread
  obtain ⟨u, hu⟩ := List.map_eq_singleton_iff.mp hnames
  refine ⟨u, ?_, hu.2⟩
  rw [hu.1, ContractType.mem_walkAll]
  exact ⟨u, by simp, by simp [ContractType.walk_eq_cons]⟩

/-- **The names of the types that are read are the identifiers, alone or with one line feed after
them.**  The path of a file and the line that opens a type stay on one line exactly if the name is
an identifier, as far as what stands beside the name does. -/
theorem occursAsTypeName_iff_isIdentifier_or_lineFeed (name : String) :
    (OccursAsTypeName name ↔ IsIdentifier name ∨ ∃ b, IsIdentifier b ∧ name = b ++ "\n") ∧
    ∀ v m, ofValue v = .ok m → ∀ u ∈ ContractType.walkAll m.types, u.name = name →
      (∀ config, OneLine (Writer.outputPath config name) ↔
        OneLine config.packageDirectory ∧ IsIdentifier name) ∧
      ∀ isNested indent, OneLine ((headOf isNested u.decl).line indent) ↔
        OneLine indent ∧ (∀ b ∈ (headOf isNested u.decl).base, OneLine b) ∧
          IsIdentifier name := by
  constructor
  · rw [← Pattern.typeName_matches_iff]
    refine ⟨?_, occursAsTypeName_of_matches⟩
    rintro ⟨v, m, hm, u, hu, rfl⟩
    exact typeName_of_ofValue hm u hu
  · rintro v m hm u hu rfl
    have hline := (typeName_of_ofValue hm u hu).oneLine_iff
    refine ⟨fun config => ?_, fun isNested indent => ?_⟩
    · rw [oneLine_outputPath_iff, hline]
    · rw [oneLine_headOf_iff, ← hline]
      rfl

/-- Not every type that is read has an identifier for its name: a line feed can stand at its end. -/
theorem not_forall_typeName_isIdentifier :
    ¬ ∀ v m, ofValue v = .ok m → ∀ u ∈ ContractType.walkAll m.types, IsIdentifier u.name := by
  intro h
  have hid : IsIdentifier "Port" := by
    refine ⟨'P', ['o', 'r', 't'], rfl, by decide, List.all_eq_true.mp (by decide)⟩
  obtain ⟨v, m, hm, u, hu, hname⟩ :=
    occursAsTypeName_of_matches (Pattern.typeName_matches_iff.mpr (.inr ⟨"Port", hid, rfl⟩))
  have hline := (h v m hm u hu).oneLine
  rw [hname] at hline
  exact not_oneLine_append_lineFeed "Port" hline

end Model

end DataContract
