/-
The ranks of array types.

An array mark is taken off a type twice: when the reference is read, and again
when its name is looked up.  Each time one mark is taken off, and one is written
again at the end.  So a type with one mark or none keeps its rank, and every type
with more marks that is written at all comes out with one mark less.  Of the
types of the table only those with two marks are written, since no entry has a
mark at its end; the contracts' own types are written whatever their rank.
-/
import DataContract.Proofs.Java.TypeTable
import DataContract.Proofs.Model.Display
import DataContract.Proofs.Text.Blank
import Mathlib.Data.List.Infix

namespace DataContract.Java

open DataContract.Text

/-- As many array marks as the rank says. -/
def arrayMarks (rank : Nat) : List Char :=
  (List.replicate rank TypeRef.arrayMark).flatten

/-- A type with array marks behind it. -/
def arrayOf (type : String) (rank : Nat) : String :=
  type ++ String.ofList (arrayMarks rank)

@[simp]
lemma arrayMarks_zero : arrayMarks 0 = [] := rfl

lemma arrayMarks_succ (rank : Nat) :
    arrayMarks (rank + 1) = arrayMarks rank ++ TypeRef.arrayMark := by
  simp [arrayMarks, List.replicate_succ']

@[simp]
lemma length_arrayMarks (rank : Nat) : (arrayMarks rank).length = 2 * rank := by
  induction rank with
  | zero => rfl
  | succ rank ih =>
    have hmark : TypeRef.arrayMark.length = 2 := rfl
    rw [arrayMarks_succ, List.length_append, ih, hmark]
    omega

lemma point_notMem_arrayMarks (rank : Nat) : '.' ∉ arrayMarks rank := by
  simp [arrayMarks, TypeRef.arrayMark]

@[simp]
lemma toList_arrayOf (type : String) (rank : Nat) :
    (arrayOf type rank).toList = type.toList ++ arrayMarks rank := by
  simp [arrayOf]

@[simp]
lemma arrayOf_zero (type : String) : arrayOf type 0 = type := by
  simp [arrayOf]

lemma arrayOf_injective (type : String) {rank other : Nat}
    (h : arrayOf type rank = arrayOf type other) : rank = other := by
  have hlength := congrArg (fun s => s.toList.length) h
  simp only [toList_arrayOf, List.length_append, length_arrayMarks] at hlength
  omega

/-! ### Marks at the end of a type -/

/-- Behind an array mark there is no question mark. -/
lemma not_nullMark_suffix {base : List Char} (h : ¬ TypeRef.nullMark <:+ base) (rank : Nat) :
    ¬ TypeRef.nullMark <:+ base ++ arrayMarks rank := by
  cases rank with
  | zero => simpa using h
  | succ rank =>
    rw [arrayMarks_succ, ← List.append_assoc]
    exact TypeRef.not_nullMark_suffix_arrayMark _

lemma dropSuffix_nullMark {base : List Char} (h : ¬ TypeRef.nullMark <:+ base) (rank : Nat) :
    dropSuffix TypeRef.nullMark (base ++ arrayMarks rank) = base ++ arrayMarks rank :=
  stripped_iff.mp (.bare (not_nullMark_suffix h rank))

lemma dropSuffix?_arrayMarks_succ (base : List Char) (rank : Nat) :
    dropSuffix? TypeRef.arrayMark (base ++ arrayMarks (rank + 1)) =
      some (base ++ arrayMarks rank) := by
  rw [arrayMarks_succ, ← List.append_assoc, dropSuffix?_append]

namespace TypeTable

/-- A name is looked up without one more array mark. -/
lemma unmark_arrayMarks_succ {base : List Char} (hnull : ¬ TypeRef.nullMark <:+ base) (rank : Nat)
    (isArray : Bool) :
    unmark (base ++ arrayMarks (rank + 1)) isArray = (base ++ arrayMarks rank, true) := by
  simp only [unmark, dropSuffix_nullMark hnull, dropSuffix?_arrayMarks_succ]

lemma unmark_of_unmarked {base : List Char} (harray : ¬ TypeRef.arrayMark <:+ base)
    (hnull : ¬ TypeRef.nullMark <:+ base) (isArray : Bool) :
    unmark base isArray = (base, isArray) := by
  have hbase : dropSuffix TypeRef.nullMark base = base := stripped_iff.mp (.bare hnull)
  simp only [unmark, hbase, dropSuffix?_eq_none_iff.mpr harray]

variable {t : TypeTable}

/-- The marks of a written type are taken off once when it is read, and its name is then looked up
without the marks that are left. -/
lemma mapRef_parse (written member : String) :
    t.mapRef (.parse written) member =
      t.map (String.ofList (unmark (trim written.toList) false).1)
        (unmark (trim written.toList) false).2 member := by
  have hread : ∃ isNullable, TypeRef.parse written =
      TypeRef.ofUnmarked isNullable (dropSuffix TypeRef.nullMark (trim written.toList)) := by
    rw [TypeRef.parse, dropSuffix]
    cases dropSuffix? TypeRef.nullMark (trim written.toList) with
    | none => exact ⟨false, rfl⟩
    | some rest => exact ⟨true, rfl⟩
  obtain ⟨isNullable, hread⟩ := hread
  rw [hread, mapRef]
  cases hdrop :
      dropSuffix? TypeRef.arrayMark (dropSuffix TypeRef.nullMark (trim written.toList)) with
  | none => simp only [TypeRef.ofUnmarked, unmark, hdrop]
  | some elements => simp only [TypeRef.ofUnmarked, unmark, hdrop]

/-- A type has the Java type of what is left of it without its marks. -/
lemma map_eq_ok_iff {type member : String} {isArray : Bool} {mapped : MappedType} :
    t.map type isArray member = .ok mapped ↔
      ∃ required name, t.element? (unmark type.toList isArray).1 = some (required, name) ∧
        mapped = ⟨String.ofList (name ++ arrayMarks (unmark type.toList isArray).2.toNat),
          required.map String.ofList⟩ := by
  have hmarks : (if (unmark type.toList isArray).2 then TypeRef.arrayMark else []) =
      arrayMarks (unmark type.toList isArray).2.toNat := by
    cases (unmark type.toList isArray).2 with
    | false => rfl
    | true => rfl
  cases helement : t.element? (unmark type.toList isArray).1 with
  | none => simp [map, helement]
  | some element =>
    obtain ⟨required, name⟩ := element
    have hmap : t.map type isArray member =
        .ok ⟨String.ofList (name ++ arrayMarks (unmark type.toList isArray).2.toNat),
          required.map String.ofList⟩ := by
      simp only [map, helement, hmarks]
    rw [hmap, Except.ok.injEq]
    constructor
    · rintro rfl
      exact ⟨required, name, rfl, rfl⟩
    · rintro ⟨_, _, hsome, rfl⟩
      cases hsome
      rfl

/-- The name that a written type is looked up by, and whether it is written as an array. -/
def lookedUp (written : String) : List Char × Bool :=
  unmark (unmark (trim written.toList) false).1 (unmark (trim written.toList) false).2

lemma mapRef_parse_eq_ok_iff {written member : String} {mapped : MappedType} :
    t.mapRef (.parse written) member = .ok mapped ↔
      ∃ required name, t.element? (lookedUp written).1 = some (required, name) ∧
        mapped = ⟨String.ofList (name ++ arrayMarks (lookedUp written).2.toNat),
          required.map String.ofList⟩ := by
  rw [mapRef_parse, map_eq_ok_iff, String.toList_ofList]
  rfl

lemma mapRef_parse_of_element?_eq_none {written : String} (member : String)
    (h : t.element? (lookedUp written).1 = none) :
    t.mapRef (.parse written) member =
      .error ⟨String.ofList (unmark (trim written.toList) false).1, member⟩ := by
  rw [lookedUp] at h
  simp [mapRef_parse, map, h]

/-- What stands behind a name of the contracts' namespace does not make it one. -/
lemma owns_append_iff {base back : List Char} (h : '.' ∉ back) :
    t.Owns (base ++ back) ↔ t.Owns base := by
  constructor
  · rintro ⟨rest, hrest⟩
    rcases List.append_eq_append_iff.mp hrest with ⟨own, hbase, -⟩ | ⟨more, hname, hback⟩
    · exact ⟨own, hbase.symm⟩
    · -- the name would end behind `base`, but it ends with a point
      cases List.eq_nil_or_concat more with
      | inl hnil =>
        rw [hnil, List.append_nil] at hname
        exact ⟨[], by rw [hname, List.append_nil]⟩
      | inr hconcat =>
        obtain ⟨front, last, rfl⟩ := hconcat
        have hlast : last = '.' := by
          have := congrArg List.getLast? hname
          simpa [eq_comm] using this
        exact absurd (by simp [hback, hlast]) h
  · rintro ⟨own, rfl⟩
    exact ⟨own ++ back, by simp⟩

/-! ### Names with array marks -/

lemma element?_own (t : TypeTable) (own : List Char) :
    t.element? (t.namespaceName.toList ++ '.' :: own) = some (none, own) := by
  have hdrop : dropPrefix? (t.namespaceName.toList ++ ['.'])
      (t.namespaceName.toList ++ '.' :: own) = some own :=
    dropPrefix?_eq_some_iff.mpr (by simp)
  rw [element?, hdrop]

/-- A name of the contracts' namespace is written without it. -/
lemma eq_of_owns {base : List Char} (howns : t.Owns base) {required : Option (List Char)}
    {name : List Char} (h : t.element? base = some (required, name)) :
    required = none ∧ base = t.namespaceName.toList ++ '.' :: name := by
  obtain ⟨own, rfl⟩ := howns
  have hbase : (t.namespaceName ++ ".").toList ++ own = t.namespaceName.toList ++ '.' :: own := by
    simp
  rw [hbase, element?_own, Option.some.injEq, Prod.mk.injEq] at h
  exact ⟨h.1.symm, by rw [hbase, h.2]⟩

lemma element?_append_of_owns {base : List Char} {required : Option (List Char)} {name : List Char}
    (howns : t.Owns base) (h : t.element? base = some (required, name)) (back : List Char) :
    t.element? (base ++ back) = some (required, name ++ back) := by
  obtain ⟨rfl, rfl⟩ := eq_of_owns howns h
  rw [List.append_assoc, List.cons_append, element?_own]

/-- What a type of the table is looked up by: it has no blank end and no array mark, and behind a
point it goes on in another way than its Java type starts. -/
@[mk_iff]
structure IsPlainEntry (e : String × String) : Prop where
  array : ¬ TypeRef.arrayMark <:+ e.1.toList
  head : e.1.toList.head?.any (fun c => !isBlank c) = true
  last : e.1.toList.getLast?.any (fun c => !isBlank c) = true
  java : ∀ s ∈ e.1.toList.tails, s.head? = some '.' → ∀ isArray : Bool,
    ¬ s.tail <+: (splitQualified e.2.toList).2 ++ arrayMarks isArray.toNat

lemma isPlainEntry_of_mem : ∀ e ∈ standardTargets, IsPlainEntry e := by
  simp only [isPlainEntry_iff]
  decide +kernel

/-- No entry of the standard table is an array. -/
lemma not_lists_arrayMarks_succ (ns : String) (base : List Char) (rank : Nat) :
    ¬ (standard ns).Lists (base ++ arrayMarks (rank + 1)) := by
  rintro ⟨e, he, heq⟩
  refine (isPlainEntry_of_mem e he).array ⟨base ++ arrayMarks rank, ?_⟩
  rw [heq, arrayMarks_succ, List.append_assoc]

/-- A name that is not one of the contracts has no Java type with an array mark left. -/
lemma element?_arrayMarks_succ_eq_none {ns : String} {base : List Char}
    (h : ¬ (standard ns).Owns base) (rank : Nat) :
    (standard ns).element? (base ++ arrayMarks (rank + 1)) = none := by
  rw [element?_eq_none_iff, owns_append_iff (point_notMem_arrayMarks _)]
  exact not_or.mpr ⟨h, not_lists_arrayMarks_succ ns base rank⟩

section Accepted

variable {ns base member : String} {mapped : MappedType}

/-- A type without marks is looked up as it is. -/
lemma exists_element?_of_map (harray : ¬ TypeRef.arrayMark <:+ base.toList)
    (hnull : ¬ TypeRef.nullMark <:+ base.toList)
    (hmap : (standard ns).map base false member = .ok mapped) :
    ∃ required name, (standard ns).element? base.toList = some (required, name) ∧
      mapped = ⟨String.ofList name, required.map String.ofList⟩ := by
  obtain ⟨required, name, helement, rfl⟩ := map_eq_ok_iff.mp hmap
  rw [unmark_of_unmarked harray hnull] at helement ⊢
  exact ⟨required, name, helement, by simp⟩

/-- With one array mark or none the Java type has as many. -/
lemma mapRef_arrayOf_of_le_one (harray : ¬ TypeRef.arrayMark <:+ base.toList)
    (hnull : ¬ TypeRef.nullMark <:+ base.toList)
    (hmap : (standard ns).map base false member = .ok mapped) {rank : Nat} (hrank : rank ≤ 1)
    (htrim : trim (arrayOf base rank).toList = (arrayOf base rank).toList) :
    (standard ns).mapRef (.parse (arrayOf base rank)) member =
      .ok { mapped with name := arrayOf mapped.name rank } := by
  obtain ⟨required, name, helement, rfl⟩ := exists_element?_of_map harray hnull hmap
  have hlooked : lookedUp (arrayOf base rank) = (base.toList, decide (rank = 1)) := by
    rw [lookedUp, htrim, toList_arrayOf]
    obtain rfl | rfl : rank = 0 ∨ rank = 1 := by omega
    · rw [arrayMarks_zero, List.append_nil, unmark_of_unmarked harray hnull,
        unmark_of_unmarked harray hnull]
      rfl
    · rw [unmark_arrayMarks_succ hnull, arrayMarks_zero, List.append_nil,
        unmark_of_unmarked harray hnull]
      rfl
  have hmarks : (decide (rank = 1)).toNat = rank := by
    obtain rfl | rfl : rank = 0 ∨ rank = 1 := by omega
    · rfl
    · rfl
  rw [mapRef_parse_eq_ok_iff, hlooked, hmarks]
  exact ⟨required, name, helement, by simp [arrayOf]⟩

lemma lookedUp_arrayOf_add_two (hnull : ¬ TypeRef.nullMark <:+ base.toList) {rank : Nat}
    (htrim : trim (arrayOf base (rank + 2)).toList = (arrayOf base (rank + 2)).toList) :
    lookedUp (arrayOf base (rank + 2)) = (base.toList ++ arrayMarks rank, true) := by
  rw [lookedUp, htrim, toList_arrayOf, unmark_arrayMarks_succ hnull, unmark_arrayMarks_succ hnull]

/-- With two array marks or more the Java type has one mark less, if there is one. -/
lemma mapRef_arrayOf_of_two_le (harray : ¬ TypeRef.arrayMark <:+ base.toList)
    (hnull : ¬ TypeRef.nullMark <:+ base.toList)
    (hmap : (standard ns).map base false member = .ok mapped) {rank : Nat} (hrank : 2 ≤ rank)
    (htrim : trim (arrayOf base rank).toList = (arrayOf base rank).toList)
    (h : rank = 2 ∨ (standard ns).Owns base.toList) :
    (standard ns).mapRef (.parse (arrayOf base rank)) member =
      .ok { mapped with name := arrayOf mapped.name (rank - 1) } := by
  obtain ⟨required, name, helement, rfl⟩ := exists_element?_of_map harray hnull hmap
  obtain ⟨more, rfl⟩ := Nat.exists_eq_add_of_le' hrank
  have hmarked : (standard ns).element? (base.toList ++ arrayMarks more) =
      some (required, name ++ arrayMarks more) := by
    rcases h with htwo | howns
    · obtain rfl : more = 0 := by omega
      simpa using helement
    · exact element?_append_of_owns howns helement _
  rw [mapRef_parse_eq_ok_iff, lookedUp_arrayOf_add_two hnull htrim]
  exact ⟨required, _, hmarked, by simp [arrayOf, arrayMarks_succ]⟩

/-- A type of the table has no Java type with three array marks or more. -/
lemma mapRef_arrayOf_eq_error (hnull : ¬ TypeRef.nullMark <:+ base.toList) {rank : Nat}
    (hrank : 2 ≤ rank) (htrim : trim (arrayOf base rank).toList = (arrayOf base rank).toList)
    (h : ¬ (rank = 2 ∨ (standard ns).Owns base.toList)) :
    (standard ns).mapRef (.parse (arrayOf base rank)) member =
      .error ⟨arrayOf base (rank - 1), member⟩ := by
  rw [not_or] at h
  obtain ⟨more, rfl⟩ : ∃ more, rank = more + 1 + 2 := ⟨rank - 3, by omega⟩
  rw [mapRef_parse_of_element?_eq_none]
  · rw [htrim, toList_arrayOf, unmark_arrayMarks_succ hnull]
    simp [arrayOf]
  · rw [lookedUp_arrayOf_add_two hnull htrim]
    exact element?_arrayMarks_succ_eq_none h.2 more

/-- Two array marks or more are never all written. -/
lemma le_one_of_name_eq (harray : ¬ TypeRef.arrayMark <:+ base.toList)
    (hnull : ¬ TypeRef.nullMark <:+ base.toList)
    (hmap : (standard ns).map base false member = .ok mapped) {rank : Nat}
    (htrim : trim (arrayOf base rank).toList = (arrayOf base rank).toList) {written : MappedType}
    (hwritten : (standard ns).mapRef (.parse (arrayOf base rank)) member = .ok written)
    (hname : written.name = arrayOf mapped.name rank) : rank ≤ 1 := by
  by_contra hrank
  have htwo : 2 ≤ rank := by omega
  by_cases h : rank = 2 ∨ (standard ns).Owns base.toList
  · rw [mapRef_arrayOf_of_two_le harray hnull hmap htwo htrim h, Except.ok.injEq] at hwritten
    rw [← hwritten] at hname
    have := arrayOf_injective _ hname
    omega
  · rw [mapRef_arrayOf_eq_error hnull htwo htrim h] at hwritten
    cases hwritten

end Accepted

/-! ### What is looked up in a text -/

lemma exists_dropSuffix_nullMark (s : List Char) :
    ∃ back, s = dropSuffix TypeRef.nullMark s ++ back ∧ '.' ∉ back := by
  cases hdrop : dropSuffix? TypeRef.nullMark s with
  | none => exact ⟨[], by simp [dropSuffix, hdrop], by simp⟩
  | some rest =>
    refine ⟨TypeRef.nullMark, ?_, by decide⟩
    rw [dropSuffix, hdrop]
    exact dropSuffix?_eq_some_iff.mp hdrop

/-- What is taken off a type has no point, and it is long enough for the array mark. -/
lemma exists_unmark_back (type : List Char) (isArray : Bool) :
    ∃ back, type = (unmark type isArray).1 ++ back ∧ '.' ∉ back ∧
      2 * (unmark type isArray).2.toNat ≤ back.length + 2 * isArray.toNat := by
  obtain ⟨back, htype, hback⟩ := exists_dropSuffix_nullMark type
  cases hdrop : dropSuffix? TypeRef.arrayMark (dropSuffix TypeRef.nullMark type) with
  | none =>
    have hunmark : unmark type isArray = (dropSuffix TypeRef.nullMark type, isArray) := by
      simp only [unmark, hdrop]
    rw [hunmark]
    exact ⟨back, htype, hback, Nat.le_add_left _ _⟩
  | some elements =>
    obtain ⟨inner, helements, hinner⟩ := exists_dropSuffix_nullMark elements
    have hunmark : unmark type isArray = (dropSuffix TypeRef.nullMark elements, true) := by
      simp only [unmark, hdrop]
    rw [hunmark]
    refine ⟨inner ++ TypeRef.arrayMark ++ back, ?_, ?_, ?_⟩
    · rw [← List.append_assoc, ← List.append_assoc, ← helements, ← dropSuffix?_eq_some_iff.mp hdrop]
      exact htype
    · simp [hinner, hback, TypeRef.arrayMark]
    · simp [TypeRef.arrayMark]
      omega

/-- A written type is the name that it is looked up by, with no point before or behind it. -/
lemma exists_lookedUp (written : String) :
    ∃ front back, written.toList = front ++ (lookedUp written).1 ++ back ∧ '.' ∉ front ∧
      '.' ∉ back ∧ (lookedUp written).1.length + 2 * (lookedUp written).2.toNat ≤
        (trim written.toList).length := by
  obtain ⟨outer, hread, houter, hlength⟩ := exists_unmark_back (trim written.toList) false
  obtain ⟨inner, hlooked, hinner, hlength'⟩ := exists_unmark_back
    (unmark (trim written.toList) false).1 (unmark (trim written.toList) false).2
  obtain ⟨front, back, hwritten, hfront, hback⟩ := exists_blank_of_trim written.toList
  have hblank : ∀ l : List Char, (∀ c ∈ l, isBlank c = true) → '.' ∉ l := by
    intro l hl hpoint
    exact absurd (hl '.' hpoint) (by decide)
  have htrim : trim written.toList = (lookedUp written).1 ++ (inner ++ outer) := by
    rw [← List.append_assoc, lookedUp, ← hlooked]
    exact hread
  refine ⟨front, inner ++ outer ++ back, ?_, hblank front hfront, ?_, ?_⟩
  · rw [htrim] at hwritten
    simpa using hwritten
  · simp [hinner, houter, hblank back hback]
  · rw [htrim, List.length_append, List.length_append]
    simp only [Bool.toNat_false] at hlength
    have hboth : 2 * (lookedUp written).2.toNat ≤
        inner.length + 2 * (unmark (trim written.toList) false).2.toNat := hlength'
    omega

lemma exists_of_target? {base target : List Char} (h : t.target? base = some target) :
    ∃ e ∈ t.targets, e.1.toList = base ∧ e.2.toList = target := by
  rw [target?, Option.map_eq_some_iff] at h
  obtain ⟨e, hfind, htarget⟩ := h
  exact ⟨e, List.mem_of_find?_eq_some hfind, by simpa using List.find?_some hfind, htarget⟩

/-- A name of the table has no blank end, whatever its rank. -/
lemma trim_arrayOf_of_lists {ns base : String} (h : (standard ns).Lists base.toList) (rank : Nat) :
    trim (arrayOf base rank).toList = (arrayOf base rank).toList := by
  obtain ⟨e, he, heq⟩ := h
  have hentry := isPlainEntry_of_mem e he
  obtain ⟨c, hhead, hc⟩ := (Option.any_eq_true _ _).mp hentry.head
  obtain ⟨d, hlast, hd⟩ := (Option.any_eq_true _ _).mp hentry.last
  rw [heq] at hhead hlast
  refine trim_eq_self (fun first hfirst => ?_) (fun final hfinal => ?_)
  · have hsame : c = first := by simpa [List.head?_append, hhead] using hfirst
    rw [← hsame]
    simpa using hc
  · cases rank with
    | zero =>
      have hsame : d = final := by simpa [hlast] using hfinal
      rw [← hsame]
      simpa using hd
    | succ rank =>
      have hsame : ']' = final := by simpa [arrayMarks_succ, TypeRef.arrayMark] using hfinal
      rw [← hsame]
      decide

/-- A point of a text lies in the part of it that has all of them. -/
lemma exists_behind_point {front middle back before after : List Char} (hfront : '.' ∉ front)
    (hback : '.' ∉ back) (h : front ++ middle ++ back = before ++ '.' :: after) :
    ∃ rest, '.' :: rest <:+ middle ∧ rest <+: after := by
  rcases List.append_eq_append_iff.mp h with ⟨more, -, hmore⟩ | ⟨rest, hmiddle, hafter⟩
  · exact absurd (by simp [hmore]) hback
  · cases rest with
    | nil => exact absurd (by simp [← hafter.trans (List.nil_append _)]) hback
    | cons point rest =>
      rw [List.cons_append, List.cons.injEq] at hafter
      obtain ⟨rfl, rfl⟩ := hafter
      refine ⟨rest, ?_, List.prefix_append _ _⟩
      rcases List.append_eq_append_iff.mp hmiddle with ⟨more, -, hmore⟩ | ⟨more, hfront', hmore⟩
      · exact ⟨more, hmore.symm⟩
      · cases more with
        | nil => exact ⟨[], hmore⟩
        | cons point more =>
          rw [List.cons_append, List.cons.injEq] at hmore
          exact absurd (by simp [hfront', ← hmore.1]) hfront

/-- A type of the contracts' namespace with a blank end is not written with its own name: what is
looked up is a shorter type of the namespace, or a type of the table, whose Java type differs. -/
lemma name_ne_of_trim_ne {ns base member : String} {mapped written : MappedType} {rank : Nat}
    (harray : ¬ TypeRef.arrayMark <:+ base.toList) (hnull : ¬ TypeRef.nullMark <:+ base.toList)
    (hmap : (standard ns).map base false member = .ok mapped)
    (hwritten : (standard ns).mapRef (.parse (arrayOf base rank)) member = .ok written)
    (htrim : trim (arrayOf base rank).toList ≠ (arrayOf base rank).toList) :
    written.name ≠ arrayOf mapped.name rank := by
  obtain ⟨required, own, helement, rfl⟩ := exists_element?_of_map harray hnull hmap
  have howns : (standard ns).Owns base.toList := by
    by_contra hnot
    rw [element?_of_not_owns hnot, Option.map_eq_some_iff] at helement
    obtain ⟨target, htarget, -⟩ := helement
    obtain ⟨e, he, heq, -⟩ := exists_of_target? htarget
    exact htrim (trim_arrayOf_of_lists ⟨e, he, heq⟩ rank)
  obtain ⟨-, hbase⟩ := eq_of_owns howns helement
  obtain ⟨required', name, hlooked, rfl⟩ := mapRef_parse_eq_ok_iff.mp hwritten
  intro hname
  have hchars : name ++ arrayMarks (lookedUp (arrayOf base rank)).2.toNat =
      own ++ arrayMarks rank := by
    simpa [String.ext_iff] using hname
  obtain ⟨front, back, htext, hfront, hback, hlength⟩ := exists_lookedUp (arrayOf base rank)
  by_cases hshort : (standard ns).Owns (lookedUp (arrayOf base rank)).1
  · -- both names are longer by the namespace, and a mark stands for each that was taken off
    obtain ⟨-, hbase'⟩ := eq_of_owns hshort hlooked
    have hcut : (trim (arrayOf base rank).toList).length < (arrayOf base rank).toList.length := by
      refine lt_of_le_of_ne (trim_isInfix _).length_le (fun heq => htrim ?_)
      exact (trim_isInfix _).eq_of_length heq
    have hlength' := congrArg List.length hchars
    rw [hbase'] at hlength
    simp only [toList_arrayOf, hbase, List.length_append, List.length_cons,
      length_arrayMarks] at hlength hlength' hcut
    omega
  · rw [element?_of_not_owns hshort, Option.map_eq_some_iff] at hlooked
    obtain ⟨target, htarget, hsplit⟩ := hlooked
    obtain ⟨e, he, hkey, rfl⟩ := exists_of_target? htarget
    rw [toList_arrayOf, hbase, List.append_assoc, List.cons_append, ← hkey] at htext
    obtain ⟨rest, hsuffix, hprefix⟩ := exists_behind_point hfront hback htext.symm
    refine (isPlainEntry_of_mem e he).java _ ((List.mem_tails _ _).mpr hsuffix) rfl
      (lookedUp (arrayOf base rank)).2 ?_
    rw [hsplit, hchars]
    exact hprefix

/-- **A type with one array mark or none keeps its rank, and every other type that is written loses
one.**  The type is one that has a Java type and no marks, and `rank` array marks are put behind it.
With two marks or more, a type of the contracts' namespace is written with one mark less; a type of
the table is so with two marks, and refused with more. -/
theorem mapRef_keeps_rank_iff (ns base member : String) (rank : Nat) (mapped : MappedType)
    (hmap : (standard ns).map base false member = .ok mapped)
    (harray : ¬ TypeRef.arrayMark <:+ base.toList) (hnull : ¬ TypeRef.nullMark <:+ base.toList) :
    ((∃ written, (standard ns).mapRef (.parse (arrayOf base rank)) member = .ok written ∧
        written.name = arrayOf mapped.name rank) ↔
      rank ≤ 1 ∧ trim (arrayOf base rank).toList = (arrayOf base rank).toList) ∧
    (2 ≤ rank → trim (arrayOf base rank).toList = (arrayOf base rank).toList →
      (rank = 2 ∨ (standard ns).Owns base.toList →
        (standard ns).mapRef (.parse (arrayOf base rank)) member =
          .ok { mapped with name := arrayOf mapped.name (rank - 1) }) ∧
      (¬ (rank = 2 ∨ (standard ns).Owns base.toList) →
        (standard ns).mapRef (.parse (arrayOf base rank)) member =
          .error ⟨arrayOf base (rank - 1), member⟩)) := by
  refine ⟨⟨?_, ?_⟩, fun hrank htrim => ⟨?_, ?_⟩⟩
  · rintro ⟨written, hwritten, hname⟩
    have htrim : trim (arrayOf base rank).toList = (arrayOf base rank).toList := by
      by_contra hne
      exact name_ne_of_trim_ne harray hnull hmap hwritten hne hname
    exact ⟨le_one_of_name_eq harray hnull hmap htrim hwritten hname, htrim⟩
  · rintro ⟨hrank, htrim⟩
    exact ⟨_, mapRef_arrayOf_of_le_one harray hnull hmap hrank htrim, rfl⟩
  · exact mapRef_arrayOf_of_two_le harray hnull hmap hrank htrim
  · exact mapRef_arrayOf_eq_error hnull hrank htrim

theorem mapRef_three_marks :
    (standard "Tunnels").map "Tunnels.Port" false "Ports" = .ok ⟨"Port", none⟩ ∧
      (standard "Tunnels").mapRef (.parse "Tunnels.Port[][][]") "Ports" =
        .ok ⟨"Port[][]", none⟩ := by
  have hmap : (standard "Tunnels").map "Tunnels.Port" false "Ports" = .ok ⟨"Port", none⟩ := rfl
  have howns : (standard "Tunnels").Owns "Tunnels.Port".toList := ⟨"Port".toList, by decide⟩
  have hmapped := (mapRef_keeps_rank_iff "Tunnels" "Tunnels.Port" "Ports" 3 _ hmap (by decide)
    (by decide)).2 (by decide) (by decide)
  exact ⟨hmap, hmapped.1 (.inr howns)⟩

/-- Arrays of arrays are not refused, and do not keep their rank. -/
theorem not_forall_mapRef_rank :
    ¬ ∀ (ns base member : String) (rank : Nat) (mapped : MappedType),
      (standard ns).map base false member = .ok mapped →
        ¬ TypeRef.arrayMark <:+ base.toList → ¬ TypeRef.nullMark <:+ base.toList →
          (∃ e, (standard ns).mapRef (.parse (arrayOf base rank)) member = .error e) ∨
            ∃ written, (standard ns).mapRef (.parse (arrayOf base rank)) member = .ok written ∧
              written.name = arrayOf mapped.name rank := by
  intro h
  have hmapped : (standard "Tunnels").mapRef (.parse (arrayOf "int" 2)) "Ports" =
      .ok ⟨"int[]", none⟩ := rfl
  rcases h "Tunnels" "int" "Ports" 2 ⟨"int", none⟩ rfl (by decide) (by decide) with
    ⟨e, he⟩ | ⟨written, hwritten, hname⟩
  · rw [hmapped] at he
    cases he
  · rw [hmapped, Except.ok.injEq] at hwritten
    rw [← hwritten] at hname
    revert hname
    decide

end TypeTable

end DataContract.Java
