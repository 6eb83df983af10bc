/-
How the text of a file is put together.

The names of a list come out in strictly increasing order.  The imports of a
page are put between its header and its body, though they are known last.  A
file is written if its source is not rooted and its type can be drafted.
-/
import DataContract.Java.Writer
import Mathlib.Data.String.Basic
import Mathlib.Tactic.Common

namespace DataContract.Java

/-! ### Names in increasing order -/

lemma mem_insertName {n name : String} {names : List String} :
    n ∈ insertName name names ↔ n = name ∨ n ∈ names := by
  induction names with
  | nil => simp [insertName]
  | cons m rest ih =>
    rw [insertName]
    split_ifs with hlt heq
    · simp
    · simp [heq]
    · simp only [List.mem_cons, ih]
      exact or_left_comm

lemma insertName_pairwise (name : String) {names : List String}
    (h : names.Pairwise (· < ·)) : (insertName name names).Pairwise (· < ·) := by
  induction names with
  | nil => simp [insertName]
  | cons m rest ih =>
    obtain ⟨hfirst, hrest⟩ := List.pairwise_cons.mp h
    rw [insertName]
    split_ifs with hlt heq
    · refine List.pairwise_cons.mpr ⟨fun n hn => ?_, h⟩
      obtain rfl | hn := List.mem_cons.mp hn
      · exact hlt
      · exact lt_trans hlt (hfirst n hn)
    · exact h
    · refine List.pairwise_cons.mpr ⟨fun n hn => ?_, ih hrest⟩
      obtain rfl | hn := mem_insertName.mp hn
      · exact lt_of_le_of_ne (not_lt.mp hlt) (Ne.symm heq)
      · exact hfirst n hn

lemma mem_sortNames {n : String} {names : List String} : n ∈ sortNames names ↔ n ∈ names := by
  induction names with
  | nil => simp [sortNames]
  | cons m rest ih =>
    rw [sortNames, List.foldr_cons, mem_insertName, List.mem_cons]
    exact or_congr_right ih

lemma sortNames_pairwise (names : List String) : (sortNames names).Pairwise (· < ·) := by
  induction names with
  | nil => exact .nil
  | cons m rest ih => exact insertName_pairwise m ih

/-! ### Pages -/

namespace Page

lemma pieces_foldl_writeLine (p : Page) (lines : List String) :
    (lines.foldl writeLine p).pieces = p.pieces ++ lines.map (· ++ "\n") := by
  induction lines generalizing p with
  | nil => simp
  | cons line rest ih =>
    rw [List.foldl_cons, ih]
    simp [writeLine, write]

/-- A mark is a place in the page. -/
lemma placeOf_mark (p : Page) (s : String) : (p.write s).placeOf p.mark = p.pieces.length := by
  simp only [placeOf, mark, write, List.length_append, List.length_singleton]
  omega

/-- What is put at a mark stands before what was written after it. -/
lemma text_insert_mark (p : Page) (body block : String) :
    ((p.write body).insert p.mark block).text = p.text ++ block ++ body := by
  rw [insert, placeOf_mark]
  simp [text, write, String.join_append, String.join_cons, String.join_nil, String.append_assoc]

end Page

namespace Writer

/-- The imports of a file as lines, and an empty line after them if there are any. -/
def importSection (names : List String) : String :=
  if names = [] then "" else String.join (names.map (fun n => "import " ++ n ++ ";\n")) ++ "\n"

/-- The text of a header: its lines. -/
lemma text_pageOf (lines : List String) :
    (pageOf lines).text = String.join (lines.map (· ++ "\n")) := by
  rw [pageOf, Page.text, Page.pieces_foldl_writeLine, Page.empty, List.nil_append]

/-- The text of a file: its header, its imports and its body. -/
lemma text_assemble (header imports : List String) (body : String) :
    (assemble header imports body).text =
      String.join (header.map (· ++ "\n")) ++ importSection imports ++ body := by
  rw [assemble, importSection, ← text_pageOf]
  cases imports with
  | nil =>
    -- nothing is put at the mark, not even an empty line
    simp [Page.text, Page.write, String.join_append, String.join_cons, String.join_nil]
  | cons n rest =>
    rw [if_neg (by simp), if_neg (by simp), Page.text_insert_mark, importBlock]

/-! ### Emissions -/

variable {w : Writer} {config : Config} {excluded : String → Bool} {t : ContractType}

/-- When a file is generated, and which. -/
lemma emit_eq_ok_iff {file : GeneratedFile} :
    (w.emit config excluded t).outcome = .ok file ↔
      isRooted (sourceOf t.decl) = false ∧
      ∃ type, (w.toDialect.type excluded false t).outcome = .ok type ∧
        file = ⟨outputPath config t.name, t.name,
          (assemble (w.header config (sourceOf t.decl) (outputPath config t.name))
            (w.importedNames t.name (w.toDialect.type excluded false t).imports)
            (type.text w.docs "")).text⟩ := by
  rw [emit]
  cases isRooted (sourceOf t.decl) with
  | true => simp
  | false =>
    cases hdraft : (w.toDialect.type excluded false t).outcome with
    | error e => simp [hdraft]
    | ok type => simp [hdraft, eq_comm]

/-- When no file is generated, and why. -/
lemma emit_eq_error_iff {e : EmitError} :
    (w.emit config excluded t).outcome = .error e ↔
      (isRooted (sourceOf t.decl) = true ∧ e = .rootedSource t.name (sourceOf t.decl)) ∨
      (isRooted (sourceOf t.decl) = false ∧
        ∃ cause, (w.toDialect.type excluded false t).outcome = .error cause ∧
          e = .unsupported cause) := by
  rw [emit]
  cases isRooted (sourceOf t.decl) with
  | true => simp [eq_comm]
  | false =>
    cases hdraft : (w.toDialect.type excluded false t).outcome with
    | error e => simp [hdraft, eq_comm]
    | ok type => simp [hdraft]

end Writer

end DataContract.Java
