/-
Written references, and what reading and writing them again changes.

Every text is the written form of a reference whose marks are the last ones of the
text, with the mark of the elements of an array still in its name.  Reading the text
drops that mark and nothing else.  So a reference without marks and blanks at the ends
of its name is read back as it was, and reading once more what was read and written
gives the same reference unless there was a second mark of the elements to drop.
-/
import DataContract.Model.TypeRef
import DataContract.Proofs.Text.Blank
import DataContract.Proofs.Text.Occurrence

namespace DataContract.TypeRef

open DataContract.Text

/-! ### Marks at the end of a text -/

lemma not_nullMark_suffix_arrayMark (s : List Char) : ¬ nullMark <:+ s ++ arrayMark := by
  rintro ⟨front, hfront⟩
  have hlast := congrArg List.getLast? hfront
  simp [nullMark, arrayMark] at hlast

lemma not_arrayMark_suffix_nullMark (s : List Char) : ¬ arrayMark <:+ s ++ nullMark := by
  rintro ⟨front, hfront⟩
  have hlast := congrArg List.getLast? hfront
  simp [nullMark, arrayMark] at hlast

@[simp]
lemma toList_display (r : TypeRef) :
    r.display.toList = r.base.toList ++ ((if r.isArray then arrayMark else [])
      ++ (if r.isNullable then nullMark else [])) := by
  simp [display]

/-- The marks of a reference are the last ones of its written form: a mark that is missing does not
stand at the end of its name. -/
structure OwnsMarks (r : TypeRef) : Prop where
  array : r.isArray = false → ¬ arrayMark <:+ r.base.toList
  null : r.isArray = false → r.isNullable = false → ¬ nullMark <:+ r.base.toList

/-- A reference without the mark of the elements of an array in its name. -/
def dropElementMark (r : TypeRef) : TypeRef :=
  if r.isArray then { r with base := String.ofList (dropSuffix nullMark r.base.toList) } else r

/-- Every text is the written form of a reference. -/
lemma exists_display (t : List Char) : ∃ r : TypeRef, r.OwnsMarks ∧ r.display.toList = t := by
  obtain ⟨isNullable, s, rfl, hnull⟩ : ∃ (isNullable : Bool) (s : List Char),
      t = s ++ (if isNullable then nullMark else []) ∧ (isNullable = false → ¬ nullMark <:+ s) := by
    by_cases h : nullMark <:+ t
    · obtain ⟨s, rfl⟩ := h
      exact ⟨true, s, rfl, Bool.noConfusion⟩
    · exact ⟨false, t, (List.append_nil t).symm, fun _ => h⟩
  by_cases h : arrayMark <:+ s
  · obtain ⟨elements, rfl⟩ := h
    exact ⟨⟨String.ofList elements, isNullable, true⟩, ⟨Bool.noConfusion, Bool.noConfusion⟩,
      by simp⟩
  · exact ⟨⟨String.ofList s, isNullable, false⟩, ⟨fun _ => by simpa using h,
      fun _ hn => by simpa using hnull hn⟩, by simp⟩

/-- A text is read as the reference whose written form it is, without the mark of its elements. -/
lemma parse_of_display {r : TypeRef} (h : r.OwnsMarks) {s : String}
    (hs : trim s.toList = r.display.toList) : parse s = r.dropElementMark := by
  obtain ⟨base, isNullable, isArray⟩ := r
  have hname : ofUnmarked isNullable (base.toList ++ if isArray then arrayMark else []) =
      dropElementMark ⟨base, isNullable, isArray⟩ := by
    cases isArray with
    | true => simp [ofUnmarked, dropElementMark, dropSuffix?_append]
    | false => simp [ofUnmarked, dropElementMark, dropSuffix?_eq_none_iff.mpr (h.array rfl)]
  rw [toList_display, ← List.append_assoc] at hs
  rw [parse, ← hname]
  cases isNullable with
  | true => simp only [hs, if_true, dropSuffix?_append]
  | false =>
    have hnull : ¬ nullMark <:+ base.toList ++ if isArray then arrayMark else [] := by
      cases isArray with
      | true => exact not_nullMark_suffix_arrayMark _
      | false => simpa using h.null rfl rfl
    simp [hs, dropSuffix?_eq_none_iff.mpr hnull]

/-- A text stands before the last array mark of a written form, which nothing but a question mark
may follow, exactly if it stands at the end of the name of an array. -/
lemma suffix_display_iff {r : TypeRef} (h : r.OwnsMarks) (s : List Char) :
    (s ++ arrayMark <:+ r.display.toList ∨ s ++ arrayMark ++ nullMark <:+ r.display.toList) ↔
      r.isArray = true ∧ s <:+ r.base.toList := by
  obtain ⟨base, isNullable, isArray⟩ := r
  have harray : ∀ t, ¬ s ++ arrayMark <:+ t ++ nullMark := fun t hsuffix =>
    not_arrayMark_suffix_nullMark t ((List.suffix_append _ _).trans hsuffix)
  have hnull : ∀ t, ¬ s ++ arrayMark ++ nullMark <:+ t ++ arrayMark := fun t hsuffix =>
    not_nullMark_suffix_arrayMark t ((List.suffix_append _ _).trans hsuffix)
  cases isArray with
  | true =>
    cases isNullable with
    | true =>
      have hmarks : (display ⟨base, true, true⟩).toList = base.toList ++ arrayMark ++ nullMark := by
        simp
      rw [hmarks, List.suffix_append_self_iff, List.suffix_append_self_iff, or_iff_right (harray _)]
      simp
    | false =>
      have hmarks : (display ⟨base, false, true⟩).toList = base.toList ++ arrayMark := by simp
      rw [hmarks, List.suffix_append_self_iff, or_iff_left (hnull _)]
      simp
  | false =>
    -- without an array mark of its own, a reference has none at the end of its name either
    have hbase : ¬ s ++ arrayMark <:+ base.toList := fun hsuffix =>
      h.array rfl ((List.suffix_append _ _).trans hsuffix)
    refine iff_of_false (not_or.mpr ?_) (fun hfalse => Bool.noConfusion hfalse.1)
    cases isNullable with
    | true =>
      have hmarks : (display ⟨base, true, false⟩).toList = base.toList ++ nullMark := by simp
      rw [hmarks, List.suffix_append_self_iff]
      exact ⟨harray _, hbase⟩
    | false =>
      have hmarks : (display ⟨base, false, false⟩).toList = base.toList := by simp
      rw [hmarks]
      exact ⟨hbase, fun hsuffix => h.null rfl rfl ((List.suffix_append _ _).trans hsuffix)⟩

/-! ### Blanks around a written form -/

/-- Blanks around the written form of a reference are cut off, and nothing of the form itself is, if
it has no blank at the ends that are not marks. -/
lemma trim_display {r : TypeRef} {left right : List Char} (hleft : allBlank left = true)
    (hright : allBlank right = true) (hhead : ∀ c ∈ r.base.toList.head?, isBlank c = false)
    (hlast : r.isArray = false → r.isNullable = false →
      ∀ c ∈ r.base.toList.getLast?, isBlank c = false) :
    trim (left ++ r.display.toList ++ right) = r.display.toList := by
  obtain ⟨base, isNullable, isArray⟩ := r
  have hmarks : ∀ c ∈ (if isArray then arrayMark else []) ++ (if isNullable then nullMark else []),
      isBlank c = false := by
    intro c hc
    have hall : ((if isArray then arrayMark else []) ++ (if isNullable then nullMark else [])).all
        (fun c => !isBlank c) = true := by
      cases isArray <;> cases isNullable <;> rfl
    simpa using List.all_eq_true.mp hall c hc
  refine trim_append_blank hleft hright (fun c hc => ?_) (fun c hc => ?_)
  · rw [toList_display, List.head?_append, Option.mem_def, Option.or_eq_some_iff] at hc
    obtain hc | ⟨-, hc⟩ := hc
    · exact hhead c hc
    · exact hmarks c (List.mem_of_head? hc)
  · rw [toList_display, List.getLast?_append, Option.mem_def, Option.or_eq_some_iff] at hc
    obtain hc | ⟨hnone, hc⟩ := hc
    · exact hmarks c (List.mem_of_getLast? hc)
    · -- there are no marks, so the name ends the written form
      rw [List.getLast?_eq_none_iff, List.append_eq_nil_iff] at hnone
      have harray : isArray = false := by
        cases isArray with
        | false => rfl
        | true => cases hnone.1
      have hnull : isNullable = false := by
        cases isNullable with
        | false => rfl
        | true => cases hnone.2
      exact hlast harray hnull c hc

/-! ### Reading what was written -/

/-- A reference has a name without blanks and marks at its ends. -/
structure IsNormal (r : TypeRef) : Prop where
  head : ∀ c ∈ r.base.toList.head?, isBlank c = false
  last : ∀ c ∈ r.base.toList.getLast?, isBlank c = false
  null : ¬ nullMark <:+ r.base.toList
  array : ¬ arrayMark <:+ r.base.toList

/-- A text with the question mark directly before its final array mark dropped, if there is one; a
question mark may follow the array mark. -/
inductive ElementMarkDropped : List Char → List Char → Prop
  | array (s : List Char) :
      ElementMarkDropped (s ++ nullMark ++ arrayMark) (s ++ arrayMark)
  | nullableArray (s : List Char) :
      ElementMarkDropped (s ++ nullMark ++ arrayMark ++ nullMark) (s ++ arrayMark ++ nullMark)
  | unmarked {s : List Char} (harray : ¬ nullMark ++ arrayMark <:+ s)
      (hnullable : ¬ nullMark ++ arrayMark ++ nullMark <:+ s) : ElementMarkDropped s s

@[simp]
lemma isArray_dropElementMark (r : TypeRef) : r.dropElementMark.isArray = r.isArray := by
  rw [dropElementMark]
  split <;> rfl

lemma stripped_base_dropElementMark {r : TypeRef} (h : r.isArray = true) :
    Stripped nullMark r.base.toList r.dropElementMark.base.toList := by
  rw [stripped_iff, dropElementMark, if_pos h, String.toList_ofList]

lemma dropElementMark_eq_self_iff {r : TypeRef} :
    r.dropElementMark = r ↔ ¬ (r.isArray = true ∧ nullMark <:+ r.base.toList) := by
  obtain ⟨base, isNullable, isArray⟩ := r
  cases isArray with
  | false => simp [dropElementMark]
  | true =>
    have hdrop : dropSuffix nullMark base.toList = base.toList ↔ ¬ nullMark <:+ base.toList :=
      dropSuffix_eq_self_iff (by decide)
    simp [dropElementMark, String.ext_iff, hdrop]

lemma OwnsMarks.dropElementMark {r : TypeRef} (h : r.OwnsMarks) : r.dropElementMark.OwnsMarks := by
  cases harray : r.isArray with
  | true =>
    exact ⟨fun hfalse => by simp [harray] at hfalse, fun hfalse => by simp [harray] at hfalse⟩
  | false => rwa [dropElementMark_eq_self_iff.mpr (by simp [harray])]

/-- Reading a written form drops the mark of the elements from it. -/
lemma elementMarkDropped_display {r : TypeRef} (h : r.OwnsMarks) :
    ElementMarkDropped r.display.toList r.dropElementMark.display.toList := by
  by_cases hmarked : r.isArray = true ∧ nullMark <:+ r.base.toList
  · obtain ⟨base, isNullable, isArray⟩ := r
    obtain ⟨harray, name, hname⟩ := hmarked
    obtain rfl : isArray = true := harray
    have hbase : base = String.ofList (name ++ nullMark) := by rw [hname, String.ofList_toList]
    subst hbase
    have hdrop : dropSuffix nullMark (name ++ nullMark) = name := stripped_iff.mp (.marked name)
    cases isNullable with
    | false => simpa [TypeRef.dropElementMark, hdrop] using ElementMarkDropped.array name
    | true => simpa [TypeRef.dropElementMark, hdrop] using ElementMarkDropped.nullableArray name
  · rw [dropElementMark_eq_self_iff.mpr hmarked]
    rw [← suffix_display_iff h, not_or] at hmarked
    exact .unmarked hmarked.1 hmarked.2

/-- What was read from a text has a written form without blank ends. -/
lemma trim_display_parse (s : String) :
    trim (parse s).display.toList = (parse s).display.toList := by
  obtain ⟨r, hr, ht⟩ := exists_display (trim s.toList)
  have hname : r.base.toList <+: trim s.toList := by
    rw [← ht, toList_display]
    exact List.prefix_append _ _
  have hread : r.dropElementMark.base.toList <+: r.base.toList := by
    cases harray : r.isArray with
    | true => exact (stripped_base_dropElementMark harray).isPrefix
    | false =>
      have hself : r.dropElementMark = r := dropElementMark_eq_self_iff.mpr (by simp [harray])
      exact ⟨[], by rw [hself, List.append_nil]⟩
  rw [parse_of_display hr ht.symm]
  have hlast : r.dropElementMark.isArray = false → r.dropElementMark.isNullable = false →
      ∀ c ∈ r.dropElementMark.base.toList.getLast?, isBlank c = false := by
    -- a reference without marks is written as the text from which it was read
    intro harray hnull c hc
    rw [isArray_dropElementMark] at harray
    rw [dropElementMark_eq_self_iff.mpr (by simp [harray])] at hnull hc
    have hwhole : r.base.toList = trim s.toList := by simpa [harray, hnull] using ht
    rw [hwhole] at hc
    exact not_blank_of_getLast?_trimRight hc
  have htrim : trim ([] ++ r.dropElementMark.display.toList ++ []) = _ := trim_display rfl rfl
    (fun c hc => not_blank_of_head?_trim (hread.trans hname) hc) hlast
  rwa [List.nil_append, List.append_nil] at htrim

/-- Reading twice gives the same reference exactly if there is no second mark of the elements. -/
lemma parse_display_parse_iff (s : String) :
    parse (parse s).display = parse s ↔
      ¬ nullMark ++ nullMark ++ arrayMark <:+ trim s.toList ∧
      ¬ nullMark ++ nullMark ++ arrayMark ++ nullMark <:+ trim s.toList := by
  obtain ⟨r, hr, ht⟩ := exists_display (trim s.toList)
  have hread : parse s = r.dropElementMark := parse_of_display hr ht.symm
  have hagain : parse (parse s).display = (parse s).dropElementMark := by
    refine parse_of_display ?_ (trim_display_parse s)
    rw [hread]
    exact hr.dropElementMark
  rw [hagain, dropElementMark_eq_self_iff, hread, isArray_dropElementMark, ← not_or, ← ht,
    suffix_display_iff hr]
  refine not_congr (and_congr_right (fun harray => ?_))
  rw [← stripped_iff.mp (stripped_base_dropElementMark harray), suffix_dropSuffix_iff]

/-- **Writing and reading undo each other on references whose names have no marks and blanks at
their ends, and up to a mark of array elements on all texts.**  Such a reference is read back from
its written form with any blanks around it.  What was read from a text is written as the text
without its blank ends and without the question mark directly before its final array mark, if there
is one; and it is read back from that, unless there was another question mark before that one. -/
theorem parse_display_inverse :
    (∀ r : TypeRef, r.IsNormal → ∀ before after : String,
      allBlank before.toList = true → allBlank after.toList = true →
        parse (before ++ r.display ++ after) = r) ∧
    ∀ s : String, ElementMarkDropped (trim s.toList) (parse s).display.toList ∧
      (parse (parse s).display = parse s ↔
        ¬ nullMark ++ nullMark ++ arrayMark <:+ trim s.toList ∧
        ¬ nullMark ++ nullMark ++ arrayMark ++ nullMark <:+ trim s.toList) := by
  refine ⟨fun r hr before after hbefore hafter => ?_, fun s => ⟨?_, parse_display_parse_iff s⟩⟩
  · have htrim : trim (before ++ r.display ++ after).toList = r.display.toList := by
      rw [String.toList_append, String.toList_append]
      exact trim_display hbefore hafter hr.head (fun _ _ => hr.last)
    rw [parse_of_display ⟨fun _ => hr.array, fun _ _ => hr.null⟩ htrim]
    exact dropElementMark_eq_self_iff.mpr (fun hmarked => hr.null hmarked.2)
  · obtain ⟨r, hr, ht⟩ := exists_display (trim s.toList)
    rw [parse_of_display hr ht.symm, ← ht]
    exact elementMarkDropped_display hr

theorem parse_display_marked :
    parse ("\t " ++ display ⟨"a b", true, true⟩ ++ "\n") = ⟨"a b", true, true⟩ ∧
      parse (parse " x?[]? ").display = parse " x?[]? " ∧
      parse (parse "x??[]").display ≠ parse "x??[]" := by
  obtain ⟨hback, hagain⟩ := parse_display_inverse
  have hnormal : IsNormal ⟨"a b", true, true⟩ :=
    ⟨by rintro c ⟨⟩; rfl, by rintro c ⟨⟩; rfl, by decide, by decide⟩
  refine ⟨hback _ hnormal _ _ rfl rfl, ?_, fun heq => ?_⟩
  · exact (hagain " x?[]? ").2.mpr ⟨by decide, by decide⟩
  · exact ((hagain "x??[]").2.mp heq).1 (by decide)

end DataContract.TypeRef
