/-
Which types have a Java type, and what they import.

The marks of a type are a question mark at its end, and before it the mark of an
array, with a question mark for its elements.  Without its marks, a type of the
contracts' namespace and a type of the table have a Java type, and no other
type has one.  Only a type of the table that names a package is imported.
-/
import DataContract.Java.TypeTable
import DataContract.Proofs.Text.Occurrence
import Mathlib.Data.List.Nodup

/-- With distinct keys, the first item with a key is the only one. -/
lemma DataContract.find?_key_eq_some_iff {α κ : Type} [BEq κ] [LawfulBEq κ] {key : α → κ}
    {items : List α} (h : (items.map key).Nodup) {k : κ} {x : α} :
    items.find? (fun y => key y == k) = some x ↔ x ∈ items ∧ key x = k := by
  constructor
  · intro hfind
    exact ⟨List.mem_of_find?_eq_some hfind, by simpa using List.find?_some hfind⟩
  · rintro ⟨hx, rfl⟩
    obtain ⟨y, hy⟩ : ∃ y, items.find? (fun y => key y == key x) = some y :=
      Option.isSome_iff_exists.mp (List.find?_isSome.mpr ⟨x, hx, by simp⟩)
    have hkey : key y = key x := by simpa using List.find?_some hy
    rw [hy, List.inj_on_of_nodup_map h (List.mem_of_find?_eq_some hy) hx hkey]

namespace DataContract.Java

open DataContract.Text

/-- A reference that is written in Java, and the member that a failure to write it names. -/
structure Reference where
  type : TypeRef
  member : String

namespace TypeTable

/-! ### Types without their marks -/

/-- The name that is left of a type without its marks. -/
inductive Unmarked : List Char → List Char → Prop
  | single {type base : List Char} (h : Stripped TypeRef.nullMark type base)
      (hbase : ¬ TypeRef.arrayMark <:+ base) : Unmarked type base
  | array {type elements base : List Char}
      (h : Stripped TypeRef.nullMark type (elements ++ TypeRef.arrayMark))
      (helements : Stripped TypeRef.nullMark elements base) : Unmarked type base

lemma unmarked_iff (isArray : Bool) {type base : List Char} :
    Unmarked type base ↔ (unmark type isArray).1 = base := by
  rw [unmark]
  constructor
  · intro h
    cases h with
    | single h hbase => rw [stripped_iff.mp h, dropSuffix?_eq_none_iff.mpr hbase]
    | array h helements =>
      rw [stripped_iff.mp h, dropSuffix?_append]
      exact stripped_iff.mp helements
  · rintro rfl
    cases hdrop : dropSuffix? TypeRef.arrayMark (dropSuffix TypeRef.nullMark type) with
    | none => exact .single (stripped_iff.mpr rfl) (dropSuffix?_eq_none_iff.mp hdrop)
    | some elements =>
      have hmarked := stripped_iff.mpr (dropSuffix?_eq_some_iff.mp hdrop)
      exact .array hmarked (stripped_iff.mpr rfl)

/-! ### Support -/

variable {t : TypeTable}

/-- A name is one of the contracts' namespace. -/
def Owns (t : TypeTable) (base : List Char) : Prop :=
  (t.namespaceName ++ ".").toList <+: base

/-- A name has an entry in the table. -/
def Lists (t : TypeTable) (base : List Char) : Prop :=
  ∃ e ∈ t.targets, e.1.toList = base

/-- A type has a Java type. -/
def Supports (t : TypeTable) (type : String) : Prop :=
  ∃ base, Unmarked type.toList base ∧ (t.Owns base ∨ t.Lists base)

/-- A type has a Java type of a package: the name of that type with its package. -/
def Requires (t : TypeTable) (type name : String) : Prop :=
  ∃ base target, Unmarked type.toList base ∧ ¬ t.Owns base ∧ t.target? base = some target ∧
    '.' ∈ target.takeWhile (· != '<') ∧ name.toList = target.takeWhile (· != '<')

/-- The failure of a reference without a Java type. -/
def unsupported? (t : TypeTable) (r : Reference) : Option UnsupportedType :=
  match t.mapRef r.type r.member with
  | .ok _ => none
  | .error e => some e

/-- What a reference has to import. -/
def importOf? (t : TypeTable) (r : Reference) : Option String :=
  match t.mapRef r.type r.member with
  | .ok mapped => mapped.requiredImport
  | .error _ => none

lemma target?_eq_none_iff {base : List Char} : t.target? base = none ↔ ¬ t.Lists base := by
  simp [target?, Lists]

lemma element?_of_owns {base : List Char} (h : t.Owns base) :
    ∃ own, t.element? base = some (none, own) := by
  obtain ⟨own, hown⟩ := h
  have hdrop : dropPrefix? (t.namespaceName.toList ++ ['.']) base = some own :=
    dropPrefix?_eq_some_iff.mpr (by simpa using hown.symm)
  exact ⟨own, by rw [element?, hdrop]⟩

lemma element?_of_not_owns {base : List Char} (h : ¬ t.Owns base) :
    t.element? base = (t.target? base).map splitQualified := by
  have hdrop : dropPrefix? (t.namespaceName.toList ++ ['.']) base = none :=
    dropPrefix?_eq_none_iff.mpr (by simpa [Owns] using h)
  rw [element?, hdrop]

lemma element?_eq_none_iff {base : List Char} :
    t.element? base = none ↔ ¬ (t.Owns base ∨ t.Lists base) := by
  by_cases h : t.Owns base
  · obtain ⟨own, hown⟩ := element?_of_owns h
    simp [hown, h]
  · rw [element?_of_not_owns h, Option.map_eq_none_iff, target?_eq_none_iff]
    simp [h]

/-- A name is imported if it is no own one and its entry names a package. -/
lemma element?_imports_iff {base name : List Char} :
    (∃ written, t.element? base = some (some name, written)) ↔
      ¬ t.Owns base ∧ ∃ target, t.target? base = some target ∧
        '.' ∈ target.takeWhile (· != '<') ∧ name = target.takeWhile (· != '<') := by
  by_cases h : t.Owns base
  · obtain ⟨own, hown⟩ := element?_of_owns h
    simp [hown, h]
  · rw [element?_of_not_owns h]
    cases t.target? base with
    | none => simp
    | some target =>
      by_cases hpoint : '.' ∈ target.takeWhile (· != '<')
      · simp [splitQualified, h, hpoint, eq_comm]
      · simp [splitQualified, h, hpoint]

/-- Exactly the references to types without a Java type fail, and they name their member. -/
lemma unsupported?_eq_some_iff {r : Reference} {e : UnsupportedType} :
    t.unsupported? r = some e ↔ ¬ t.Supports r.type.base ∧ e = ⟨r.type.base, r.member⟩ := by
  have hbase : t.Supports r.type.base ↔
      t.element? (unmark r.type.base.toList r.type.isArray).1 ≠ none := by
    rw [Supports, ne_eq, element?_eq_none_iff, not_not]
    simp [unmarked_iff r.type.isArray]
  rw [hbase, unsupported?, mapRef, map]
  cases helement : t.element? (unmark r.type.base.toList r.type.isArray).1 with
  | none => simp [helement, eq_comm]
  | some element => simp [helement]

/-- What a reference imports is the name that its type requires. -/
lemma importOf?_eq_some_iff {r : Reference} {name : String} :
    t.importOf? r = some name ↔ t.Requires r.type.base name := by
  have hbase : t.Requires r.type.base name ↔
      ∃ written, t.element? (unmark r.type.base.toList r.type.isArray).1 =
        some (some name.toList, written) := by
    rw [element?_imports_iff, Requires]
    simp [unmarked_iff r.type.isArray]
  rw [hbase, importOf?, mapRef, map]
  cases helement : t.element? (unmark r.type.base.toList r.type.isArray).1 with
  | none => simp [helement]
  | some element =>
    obtain ⟨required, written⟩ := element
    cases required with
    | none => simp [helement]
    | some qualified => simp [helement, String.ext_iff]

end TypeTable

end DataContract.Java
