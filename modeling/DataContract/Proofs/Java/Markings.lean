/-
Types that are written with marks.

Behind the name of a type there can be a question mark, an array mark with a
question mark of its own before it, or both.  These marks are taken off when the
type is read, and once more when a name is looked up.  Whichever of the two meets
them first, what is looked up is the name alone, and only an array mark is written
again behind the Java name.  So the question marks make no difference, and what is
imported is what the name needs.
-/
import DataContract.Java.Draft
import DataContract.Proofs.Java.ArrayRank

namespace DataContract.Java

open DataContract.Text

namespace TypeTable

/-! ### The marks behind a name -/

/-- The marks that can stand behind the name of a type. -/
def markings : List String := ["", "?", "[]", "[]?", "?[]", "?[]?"]

/-- The marks that stand behind the Java name of a type for those behind its name. -/
def javaMarking (marking : String) : String :=
  if TypeRef.arrayMark <:+: marking.toList then "[]" else ""

/-- A question mark, or nothing. -/
def optionalMark (isNullable : Bool) : List Char :=
  if isNullable then TypeRef.nullMark else []

/-- The marks behind a name are a question mark or nothing, or such a mark on both sides of an
array mark. -/
lemma markings_cases {marking : String} (h : marking ∈ markings) :
    (∃ outer, marking.toList = optionalMark outer ∧ javaMarking marking = "") ∨
      ∃ inner outer,
        marking.toList = optionalMark inner ++ TypeRef.arrayMark ++ optionalMark outer ∧
        javaMarking marking = "[]" := by
  simp only [markings, List.mem_cons, List.not_mem_nil, or_false] at h
  obtain rfl | rfl | rfl | rfl | rfl | rfl := h
  · exact .inl ⟨false, by decide⟩
  · exact .inl ⟨true, by decide⟩
  · exact .inr ⟨false, false, by decide⟩
  · exact .inr ⟨false, true, by decide⟩
  · exact .inr ⟨true, false, by decide⟩
  · exact .inr ⟨true, true, by decide⟩

lemma dropSuffix_optionalMark {s : List Char} (h : ¬ TypeRef.nullMark <:+ s) (isNullable : Bool) :
    dropSuffix TypeRef.nullMark (s ++ optionalMark isNullable) = s := by
  cases isNullable with
  | false => simpa [optionalMark] using stripped_iff.mp (.bare h)
  | true => exact stripped_iff.mp (.marked s)

/-- A name is what is left of it with its marks, and the array mark is remembered. -/
lemma unmark_append_marking {core marking : String} (hmarking : marking ∈ markings)
    (hnull : ¬ TypeRef.nullMark <:+ core.toList) (harray : ¬ TypeRef.arrayMark <:+ core.toList) :
    ∃ isArray, unmark (core.toList ++ marking.toList) false = (core.toList, isArray) ∧
      (if isArray then TypeRef.arrayMark else []) = (javaMarking marking).toList := by
  obtain ⟨outer, hmarks, hjava⟩ | ⟨inner, outer, hmarks, hjava⟩ := markings_cases hmarking
  · refine ⟨false, ?_, by rw [hjava]; rfl⟩
    rw [hmarks]
    simp only [unmark, dropSuffix_optionalMark hnull, dropSuffix?_eq_none_iff.mpr harray]
  · refine ⟨true, ?_, by rw [hjava]; rfl⟩
    rw [hmarks, ← List.append_assoc, ← List.append_assoc]
    simp only [unmark, dropSuffix_optionalMark (TypeRef.not_nullMark_suffix_arrayMark _),
      dropSuffix?_append, dropSuffix_optionalMark hnull]

/-! ### The names of an entry -/

/-- A text with a point has a last segment. -/
lemma exists_lastSegment {s : List Char} (h : '.' ∈ s) :
    ∃ front segment, s = front ++ '.' :: segment ∧ '.' ∉ segment ∧
      (s.reverse.takeWhile (· != '.')).reverse = segment := by
  obtain ⟨back, rest, hs, hback⟩ := List.eq_append_cons_of_mem (List.mem_reverse.mpr h)
  refine ⟨rest.reverse, back.reverse, ?_, by simpa using hback, ?_⟩
  · simpa using congrArg List.reverse hs
  · rw [hs, takeWhile_append_cons hback]

/-- A Java type with a package is the name to import and its type arguments, and it is written as
the last segment of that name with them. -/
lemma exists_of_splitQualified {target required name : List Char}
    (h : splitQualified target = (some required, name)) :
    ∃ package simple arguments, required = package ++ '.' :: simple ∧ '.' ∉ simple ∧
      '<' ∉ required ∧ (arguments = [] ∨ ∃ rest, arguments = '<' :: rest) ∧
      target = required ++ arguments ∧ name = simple ++ arguments := by
  rw [splitQualified] at h
  split at h
  case isTrue hpoint =>
    rw [Prod.mk.injEq, Option.some.injEq] at h
    obtain ⟨rfl, rfl⟩ := h
    obtain ⟨package, simple, hraw, hsimple, hsegment⟩ :=
      exists_lastSegment (List.contains_iff_mem.mp hpoint)
    refine ⟨package, simple, target.dropWhile (· != '<'), hraw, hsimple, fun hmem => ?_, ?_,
      List.takeWhile_append_dropWhile.symm, by rw [hsegment]⟩
    · exact absurd (List.mem_takeWhile_imp hmem) (by simp)
    · cases harguments : target.dropWhile (· != '<') with
      | nil => exact .inl rfl
      | cons c rest =>
        have hc := List.head_dropWhile_not (· != '<') (l := target) (by simp [harguments])
        simp only [harguments, List.head_cons, bne_eq_false_iff_eq] at hc
        exact .inr ⟨rest, by rw [hc]⟩
  case isFalse => cases h

/-! ### Both ways to look up a written type -/

section Marked

variable {t : TypeTable} {core marking member : String}

/-- The Java type of a type from that of the name which is left of it without its marks. -/
lemma map_eq_of_unmark (t : TypeTable) (type member : String) {marks : String}
    {isArray isMarked : Bool} (hunmark : unmark type.toList isArray = (core.toList, isMarked))
    (hcore : unmark core.toList false = (core.toList, false))
    (hmarks : (if isMarked then TypeRef.arrayMark else []) = marks.toList) :
    t.map type isArray member =
      ((t.map core false member).map (fun mapped =>
        ⟨mapped.name ++ marks, mapped.requiredImport⟩)).mapError (fun _ => ⟨type, member⟩) := by
  simp only [map, hunmark, hcore]
  cases t.element? core.toList with
  | none => rfl
  | some element => simp [hmarks, Except.map, Except.mapError]

/-- A name that is imported is the Java type of its entry up to the type arguments, and its last
segment is written with them. -/
lemma exists_target_of_map (hcore : unmark core.toList false = (core.toList, false))
    {mapped : MappedType} (h : t.map core false member = .ok mapped) {required : String}
    (hrequired : mapped.requiredImport = some required) :
    ∃ package simple arguments, required = package ++ "." ++ simple ∧ '.' ∉ simple.toList ∧
      '<' ∉ required.toList ∧ (arguments = "" ∨ ∃ rest, arguments = "<" ++ rest) ∧
      t.target? core.toList = some (required ++ arguments).toList ∧
      mapped.name = simple ++ arguments := by
  obtain ⟨qualified?, name, helement, rfl⟩ := map_eq_ok_iff.mp h
  obtain ⟨qualified, rfl, rfl⟩ := Option.map_eq_some_iff.mp hrequired
  rw [hcore] at helement ⊢
  have howns : ¬ t.Owns core.toList := by
    intro howns
    cases (eq_of_owns howns helement).1
  rw [element?_of_not_owns howns, Option.map_eq_some_iff] at helement
  obtain ⟨target, htarget, hsplit⟩ := helement
  obtain ⟨package, simple, arguments, rfl, hsimple, hless, harguments, rfl, rfl⟩ :=
    exists_of_splitQualified hsplit
  refine ⟨String.ofList package, String.ofList simple, String.ofList arguments, ?_, ?_, ?_, ?_, ?_,
    ?_⟩
  · exact String.toList_inj.mp (by simp)
  · simpa using hsimple
  · simpa using hless
  · refine harguments.imp (fun hnil => by rw [hnil]) ?_
    rintro ⟨rest, rfl⟩
    exact ⟨String.ofList rest, String.toList_inj.mp (by simp)⟩
  · rw [htarget]
    simp
  · exact String.toList_inj.mp (by simp)

end Marked

/-- **A written type is mapped alike when it is read first and when it is looked up as it stands,
and its question marks make no difference.**  Behind the name there are any marks, and blanks may
stand around it all.  If the name alone has no Java type, then both ways fail and nothing is
imported.  Otherwise both give the Java type of the name, with an array mark behind it exactly if
there is one behind the name, and the import of the name is the only one that is added.  A name that
is imported is the Java type of the entry up to its type arguments, and its last segment is written
with them. -/
theorem typeOf_parse_agrees_with_map (t : TypeTable) (written core marking member : String)
    (hwritten : trim written.toList = core.toList ++ marking.toList) (hmarking : marking ∈ markings)
    (hnull : ¬ TypeRef.nullMark <:+ core.toList) (harray : ¬ TypeRef.arrayMark <:+ core.toList) :
    (∀ e, t.map core false member = .error e →
      t.map (String.ofList (trim written.toList)) false member =
          .error ⟨String.ofList (trim written.toList), member⟩ ∧
        Draft.typeOf t (.parse written) member = ⟨.error ⟨core, member⟩, [], []⟩) ∧
    ∀ mapped, t.map core false member = .ok mapped →
      t.map (String.ofList (trim written.toList)) false member =
          .ok ⟨mapped.name ++ javaMarking marking, mapped.requiredImport⟩ ∧
        Draft.typeOf t (.parse written) member =
          ⟨.ok (mapped.name ++ javaMarking marking), mapped.requiredImport.toList, []⟩ ∧
        ∀ required, mapped.requiredImport = some required →
          ∃ package simple arguments, required = package ++ "." ++ simple ∧ '.' ∉ simple.toList ∧
            '<' ∉ required.toList ∧ (arguments = "" ∨ ∃ rest, arguments = "<" ++ rest) ∧
            t.target? core.toList = some (required ++ arguments).toList ∧
            mapped.name = simple ++ arguments := by
  obtain ⟨isArray, hunmark, hmarks⟩ := unmark_append_marking hmarking hnull harray
  rw [← hwritten] at hunmark
  have hcore := unmark_of_unmarked harray hnull
  -- as it stands, the type is looked up without its marks
  have hwhole := map_eq_of_unmark t (String.ofList (trim written.toList)) member
    (by rw [String.toList_ofList, hunmark]) (hcore false) hmarks
  -- once it was read, the name has no marks that are left
  have hread : t.mapRef (.parse written) member = t.map core isArray member := by
    rw [mapRef_parse, hunmark, String.ofList_toList]
  rw [map_eq_of_unmark t core member (hcore isArray) (hcore false) hmarks] at hread
  refine ⟨fun e he => ?_, fun mapped hmapped => ?_⟩
  · rw [hwhole, Draft.typeOf, hread, he]
    exact ⟨rfl, rfl⟩
  · rw [hwhole, Draft.typeOf, hread, hmapped]
    exact ⟨rfl, rfl, fun required => exists_target_of_map (hcore false) hmapped⟩

/-- A table with one more entry, whose Java type has an array among its type arguments. -/
def boxTable : TypeTable :=
  (standard "Tunnels").extend [("Box", "org.lib.Box<a.B[]>")]

theorem typeOf_parse_box :
    boxTable.map "Box?[]?" false "Boxes" = .ok ⟨"Box<a.B[]>[]", some "org.lib.Box"⟩ ∧
      Draft.typeOf boxTable (.parse "\tBox?[]? ") "Boxes" =
        ⟨.ok "Box<a.B[]>[]", ["org.lib.Box"], []⟩ := by
  have hmap : boxTable.map "Box" false "Boxes" = .ok ⟨"Box<a.B[]>", some "org.lib.Box"⟩ := rfl
  have hagree := (typeOf_parse_agrees_with_map boxTable "\tBox?[]? " "Box" "?[]?" "Boxes"
    (by decide) (by decide) (by decide) (by decide)).2 _ hmap
  exact ⟨hagree.1, hagree.2.1⟩

end TypeTable

end DataContract.Java
