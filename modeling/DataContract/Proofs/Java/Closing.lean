/-
Where a Javadoc block ends.

A block is a comment of Java, which ends at the first `*/`.  The block has one at
its end, and one more for each in the parts of the comment that are written:
none of them is escaped.  If the comment itself has none, then the block has no
other, since no rule for inline tags and no cut at the end of a line makes one.
-/
import DataContract.Proofs.Java.BlockLines
import DataContract.Proofs.Java.Sections
import DataContract.Proofs.Text.Closing

namespace DataContract.Java

open DataContract.Text

/-! ### Inline tags -/

lemma closers_inlineTag {name : List Char} (hname : '*' ∉ name) (content : List Char) :
    closers (inlineTag name content) = closers content := by
  have hfront : '*' ∉ "\x7b@".toList ++ name ++ [' '] := by simp [hname]
  have hback : '/' ∉ ['\x7d'] := by decide
  rw [inlineTag, closers_append_of_slash_notMem hback, closers_append_of_star_notMem hfront]

lemma fenced_inlineTag (name content : List Char) : Fenced (inlineTag name content) :=
  ⟨⟨'\x7b', _, rfl, by decide⟩, by rw [inlineTag, List.getLast?_concat]; decide⟩

lemma closers_identifier {name : List Char} (h : closers name = 0) :
    closers (identifier (String.ofList name)).toList = 0 := by
  rw [identifier, String.toList_ofList]
  cases name with
  | nil => exact h
  | cons c name =>
    rw [String.toList_ofList]
    exact closers_lower_append h

lemma harmless_lineBreakRule : lineBreakRule.Harmless := by
  intro s new rest h _
  unfold lineBreakRule at h
  split at h
  · cases h
    refine ⟨(List.dropWhile_suffix _).trans (List.suffix_cons _ _), by decide, ?_⟩
    exact ⟨⟨' ', [], rfl, by decide⟩, by decide⟩
  · cases h

lemma harmless_memberRule (ns : List Char) : (memberRule ns).Harmless := by
  intro s new rest h hs
  obtain ⟨front, t, rfl, htarget⟩ := exists_of_memberRule h
  obtain ⟨type, member, mark, rfl, rfl⟩ := exists_of_memberTarget? htarget
  have htype : closers type = 0 :=
    closers_of_isInfix ⟨front, '.' :: (member ++ (mark ++ rest)), by simp⟩ hs
  have hmember : closers member = 0 :=
    closers_of_isInfix ⟨front ++ type ++ ['.'], mark ++ rest, by simp⟩ hs
  refine ⟨⟨front ++ type ++ '.' :: (member ++ mark), by simp⟩, ?_, fenced_inlineTag _ _⟩
  rw [closers_inlineTag (by decide), closers_append_cons (by decide) (by decide), htype,
    closers_identifier hmember]

/-- A rule that keeps a part of what it reads as the content of a tag is harmless. -/
lemma harmless_of_inlineTag {rule : Rule}
    (h : ∀ s new rest, rule s = some (new, rest) → ∃ front content mark name,
      s = front ++ (content ++ (mark ++ rest)) ∧ '*' ∉ name ∧ new = inlineTag name content) :
    rule.Harmless := by
  intro s new rest hrule hs
  obtain ⟨front, content, mark, name, rfl, hname, rfl⟩ := h s new rest hrule
  refine ⟨⟨front ++ content ++ mark, by simp⟩, ?_, fenced_inlineTag _ _⟩
  rw [closers_inlineTag hname]
  exact closers_of_isInfix ⟨front, mark ++ rest, by simp⟩ hs

lemma harmless_typeRule (ns : List Char) : (typeRule ns).Harmless := by
  refine harmless_of_inlineTag (fun s new rest h => ?_)
  obtain ⟨front, t, rfl, htarget⟩ := exists_of_typeRule h
  obtain ⟨target, mark, rfl, rfl⟩ := exists_of_typeTarget? htarget
  exact ⟨front, target, mark, _, rfl, by decide, rfl⟩

lemma harmless_codeAttributeRule (opening : List Char) : (codeAttributeRule opening).Harmless := by
  refine harmless_of_inlineTag (fun s new rest h => ?_)
  obtain ⟨code, mark, rfl, rfl⟩ := exists_of_codeAttributeRule h
  exact ⟨opening, code, mark, _, rfl, by decide, rfl⟩

lemma harmless_codeRule : codeRule.Harmless := by
  refine harmless_of_inlineTag (fun s new rest h => ?_)
  obtain ⟨code, rfl, rfl⟩ := exists_of_codeRule h
  exact ⟨_, code, _, _, rfl, by decide, rfl⟩

lemma harmless_of_mem_inlineRules {ns : List Char} {rule : Rule} (h : rule ∈ inlineRules ns) :
    rule.Harmless := by
  simp only [inlineRules, List.mem_cons, List.not_mem_nil, or_false] at h
  rcases h with rfl | rfl | rfl | rfl | rfl | rfl | rfl
  · exact harmless_lineBreakRule
  · exact harmless_memberRule ns
  · exact harmless_typeRule ns
  · exact harmless_codeAttributeRule _
  · exact harmless_codeAttributeRule _
  · exact harmless_codeAttributeRule _
  · exact harmless_codeRule

lemma closers_flatten_comment {comment : String} (ns : String)
    (h : closers (comment.toList.filter (· != '\r')) = 0) : closers (flatten ns comment) = 0 :=
  closers_substituteAll (fun _ hrule => harmless_of_mem_inlineRules hrule) h

/-! ### Sections -/

/-- What follows an opening tag, up to some place, stands in the text. -/
lemma isInfix_of_splitFirst? {pat text before after content : List Char}
    (hsplit : splitFirst? pat text = some (before, after)) (hcontent : content <+: after) :
    trim content <:+: text := by
  have hafter : after <:+ text := ⟨before ++ pat, (eq_of_splitFirst? hsplit).symm⟩
  exact (trim_isInfix content).trans (hcontent.isInfix.trans hafter.isInfix)

lemma outerSection_isInfix (opening closing text : List Char) :
    outerSection opening closing text <:+: text := by
  rw [outerSection]
  cases hsplit : splitFirst? opening text with
  | none => exact List.nil_infix
  | some hit =>
    refine isInfix_of_splitFirst? hsplit ?_
    cases hlast : beforeLast? closing hit.2 with
    | none => exact List.nil_prefix
    | some content => exact prefix_of_beforeLast? hlast

lemma innerSection_isInfix (opening closing text : List Char) :
    innerSection opening closing text <:+: text := by
  rw [innerSection]
  cases hsplit : splitFirst? opening text with
  | none => exact List.nil_infix
  | some hit =>
    refine isInfix_of_splitFirst? hsplit ?_
    cases hfirst : splitFirst? closing hit.2 with
    | none => exact List.nil_prefix
    | some found =>
      exact ⟨closing ++ found.2, by rw [eq_of_splitFirst? hfirst, List.append_assoc]; rfl⟩

lemma isInfix_of_mem_parameterSectionsFuel {fuel : Nat} {s name description : List Char}
    (h : (name, description) ∈ parameterSectionsFuel fuel s) :
    name <:+: s ∧ description <:+: s := by
  induction fuel generalizing s with
  | zero => cases h
  | succ fuel ih =>
    cases s with
    | nil => cases h
    | cons c s =>
      rw [parameterSectionsFuel] at h
      cases hsection : parameterSection? (c :: s) with
      | none =>
        rw [hsection] at h
        obtain ⟨hname, hdescription⟩ := ih h
        have htail : s <:+: c :: s := (List.suffix_cons c s).isInfix
        exact ⟨hname.trans htail, hdescription.trans htail⟩
      | some hit =>
        obtain ⟨⟨name', description'⟩, rest⟩ := hit
        have hs := eq_of_parameterSection? hsection
        rw [hsection, List.mem_cons] at h
        rcases h with h | h
        · cases h
          rw [hs]
          refine ⟨⟨"<param name=\"".toList, _, List.append_assoc _ _ _⟩, ?_⟩
          refine ⟨"<param name=\"".toList ++ (name ++ "\">".toList), "</param>".toList ++ rest, ?_⟩
          simp only [List.append_assoc]
        · obtain ⟨hname, hdescription⟩ := ih h
          have hrest : rest <:+: c :: s := by
            rw [hs]
            simp only [← List.append_assoc]
            exact (List.suffix_append _ rest).isInfix
          exact ⟨hname.trans hrest, hdescription.trans hrest⟩

namespace Javadoc

lemma closers_of_mem_tagParts {text part : List Char} (htext : closers text = 0)
    (h : part ∈ tagParts text) : closers part = 0 := by
  rw [tagParts, List.mem_append] at h
  rcases h with h | h
  · obtain ⟨⟨name, description⟩, hmem, rfl⟩ := List.mem_map.mp h
    obtain ⟨hname, hdescription⟩ := isInfix_of_mem_parameterSectionsFuel hmem
    have hidentifier := closers_identifier (closers_of_isInfix hname htext)
    have htrim := closers_of_isInfix ((trim_isInfix description).trans hdescription) htext
    show closers ("@param ".toList ++ (identifier (String.ofList name)).toList ++ [' '] ++
      trim description) = 0
    rw [List.append_assoc, List.singleton_append, List.append_assoc,
      closers_append_of_star_notMem (by decide),
      closers_append_cons (by decide) (by decide), hidentifier, htrim]
  · split at h
    · cases h
    · rw [List.mem_singleton] at h
      rw [h, closers_append_of_star_notMem (by decide)]
      exact closers_of_isInfix (innerSection_isInfix _ _ text) htext

/-- The parts of a comment that are written, in order. -/
def parts (text : List Char) : List (List Char) :=
  outerSection "<summary>".toList "</summary>".toList text ::
    outerSection "<remarks>".toList "</remarks>".toList text :: tagParts text

lemma closers_of_mem_parts {text part : List Char} (htext : closers text = 0)
    (h : part ∈ parts text) : closers part = 0 := by
  rw [parts, List.mem_cons, List.mem_cons] at h
  rcases h with rfl | rfl | h
  · exact closers_of_isInfix (outerSection_isInfix _ _ text) htext
  · exact closers_of_isInfix (outerSection_isInfix _ _ text) htext
  · exact closers_of_mem_tagParts htext h

/-! ### Lines -/

section Lines

variable {indent : List Char} (hindent : '*' ∉ indent)

include hindent

lemma sum_closers_partLines (width : Int) (part : List Char) :
    ((partLines indent width part).map closers).sum = closers part := by
  have hline : ∀ line, closers (trimRight (indent ++ " * ".toList ++ line)) = closers line := by
    intro line
    rw [closers_trimRight, List.append_assoc, closers_append_of_star_notMem hindent]
    simp [closers_cons]
  rw [partLines, List.map_map, ← sum_closers_wrap width part]
  exact congrArg List.sum (List.map_congr_left (fun line _ => hline line))

lemma closers_divider : closers (indent ++ " *".toList) = 0 := by
  rw [closers_append_of_star_notMem hindent]
  decide

lemma sum_closers_flatMap_partLines (width : Int) (tags : List (List Char)) :
    ((tags.flatMap (partLines indent width)).map closers).sum = (tags.map closers).sum := by
  induction tags with
  | nil => rfl
  | cons tag tags ih =>
    rw [List.flatMap_cons, List.map_append, List.sum_append, ih,
      sum_closers_partLines hindent width tag, List.map_cons, List.sum_cons]

/-- The divider in front of a group of lines adds nothing. -/
lemma sum_closers_divided (lines : List (List Char)) :
    (((indent ++ " *".toList) :: lines).map closers).sum = (lines.map closers).sum := by
  rw [List.map_cons, List.sum_cons, closers_divider hindent, Nat.zero_add]

lemma sum_closers_bodyLines (width : Int) (text : List Char) :
    ((bodyLines indent width text).map closers).sum = ((parts text).map closers).sum := by
  have hremarks : ∀ remarks : List Char,
      ((if remarks.isEmpty then [] else
        (indent ++ " *".toList) :: partLines indent width remarks).map closers).sum =
          closers remarks := by
    intro remarks
    split
    · rename_i hempty
      simp [List.isEmpty_iff.mp hempty]
    · rw [sum_closers_divided hindent, sum_closers_partLines hindent]
  have htags : ∀ tags : List (List Char),
      ((if tags.isEmpty then [] else
        (indent ++ " *".toList) :: tags.flatMap (partLines indent width)).map closers).sum =
          (tags.map closers).sum := by
    intro tags
    split
    · rename_i hempty
      rw [List.isEmpty_iff.mp hempty]
    · rw [sum_closers_divided hindent, sum_closers_flatMap_partLines hindent]
  rw [bodyLines, parts, List.map_append, List.sum_append, List.map_append, List.sum_append,
    hremarks, htags, sum_closers_partLines hindent, List.map_cons, List.sum_cons, List.map_cons,
    List.sum_cons, Nat.add_assoc]

end Lines

/-- Lines one under the other close a comment as often as each of them does. -/
lemma closers_flatMap_lineFeed (lines : List (List Char)) :
    closers (lines.flatMap (· ++ ['\n'])) = (lines.map closers).sum := by
  induction lines with
  | nil => rfl
  | cons line lines ih =>
    rw [List.flatMap_cons, List.append_assoc, List.singleton_append,
      closers_append_cons (by decide) (by decide), ih, List.map_cons, List.sum_cons]

/-- The lines of a block. -/
lemma block_toList (j : Javadoc) (indent : String) {comment : String}
    (h : allBlank comment.toList = false) :
    ∃ width, (j.block indent (some comment)).toList =
      ([indent.toList ++ "/**".toList] ++
        bodyLines indent.toList width (flatten j.namespaceName comment) ++
        [indent.toList ++ " */".toList]).flatMap (· ++ ['\n']) := by
  refine ⟨j.maxWidth - 3 - indent.toList.length, ?_⟩
  rw [j.toList_block indent h, framed, ← bodyLines_eq]

/-- Only a blank comment has no block. -/
lemma block_eq_empty_iff (j : Javadoc) (indent comment : String) :
    j.block indent (some comment) = "" ↔ allBlank comment.toList = true := by
  rw [block_eq_empty_iff_absent_or_blank]
  simp

lemma closers_block (j : Javadoc) {indent comment : String} (hindent : '*' ∉ indent.toList)
    (h : allBlank comment.toList = false) :
    closers (j.block indent (some comment)).toList =
      1 + ((parts (flatten j.namespaceName comment)).map closers).sum := by
  obtain ⟨width, htext⟩ := j.block_toList indent h
  have hfirst : closers (indent.toList ++ "/**".toList) = 0 := by
    rw [closers_append_of_star_notMem hindent]
    decide
  have hlast : closers (indent.toList ++ " */".toList) = 1 := by
    rw [closers_append_of_star_notMem hindent]
    decide
  rw [htext, closers_flatMap_lineFeed, List.map_append, List.sum_append, List.map_append,
    List.sum_append, sum_closers_bodyLines hindent, List.map_singleton, List.map_singleton,
    List.sum_singleton, List.sum_singleton, hfirst, hlast]
  omega

/-- A block closes its comment at its end, and before that once for each `*/` in a part that is
written; so a comment without one is not closed early. -/
theorem closers_block_eq_one_add (j : Javadoc) (indent : String)
    (hindent : ∀ c ∈ indent.toList, c = ' ') (comment : String)
    (hblock : j.block indent (some comment) ≠ "") :
    "*/\n".toList <:+ (j.block indent (some comment)).toList ∧
      closers (j.block indent (some comment)).toList =
        1 + ((parts (flatten j.namespaceName comment)).map closers).sum ∧
      (¬ "*/".toList <:+: comment.toList.filter (· != '\r') →
        closers (j.block indent (some comment)).toList = 1) := by
  have hstar : '*' ∉ indent.toList := fun hmem => absurd (hindent '*' hmem) (by decide)
  have hblank : allBlank comment.toList = false := by
    rwa [ne_eq, block_eq_empty_iff, Bool.not_eq_true] at hblock
  have hcount := j.closers_block hstar hblank
  refine ⟨?_, hcount, fun hopen => ?_⟩
  · obtain ⟨width, htext⟩ := j.block_toList indent hblank
    rw [htext, List.flatMap_append, List.flatMap_singleton]
    have hline : "*/\n".toList <:+ indent.toList ++ " */".toList ++ ['\n'] :=
      ⟨indent.toList ++ [' '], by simp⟩
    exact hline.trans (List.suffix_append _ _)
  · have htext := closers_flatten_comment j.namespaceName (closers_eq_zero_iff.mpr hopen)
    have hparts : ((parts (flatten j.namespaceName comment)).map closers).sum = 0 := by
      rw [List.sum_eq_zero_iff_forall_eq_nat, List.forall_mem_map]
      exact fun part hpart => closers_of_mem_parts htext hpart
    rw [hcount, hparts]

theorem closers_block_apart :
    closers ((⟨"Tunnels", 90⟩ : Javadoc).block "    "
      (some "<summary>a * / b <c>x*y</c></summary>")).toList = 1 := by
  have hblock : (⟨"Tunnels", 90⟩ : Javadoc).block "    "
      (some "<summary>a * / b <c>x*y</c></summary>") ≠ "" := by
    rw [ne_eq, block_eq_empty_iff]
    decide
  obtain ⟨-, -, hopen⟩ := closers_block_eq_one_add ⟨"Tunnels", 90⟩ "    " (by simp)
    "<summary>a * / b <c>x*y</c></summary>" hblock
  exact hopen (closers_eq_zero_iff.mp (by decide))

theorem not_forall_closers_block_eq_one :
    ¬ ∀ (j : Javadoc) (indent comment : String), (∀ c ∈ indent.toList, c = ' ') →
      j.block indent (some comment) ≠ "" →
        closers (j.block indent (some comment)).toList = 1 := by
  intro h
  have hblank : allBlank "<summary>a */ b</summary>".toList = false := by decide
  have hone := h ⟨"Tunnels", 90⟩ "" "<summary>a */ b</summary>" (by simp) (by
    rw [ne_eq, block_eq_empty_iff, hblank]
    decide)
  have hparts : ((parts (flatten "Tunnels" "<summary>a */ b</summary>")).map closers).sum = 1 := by
    decide +kernel
  have hindent : '*' ∉ "".toList := by decide
  rw [closers_block ⟨"Tunnels", 90⟩ hindent hblank, hparts] at hone
  exact absurd hone (by decide)

end Javadoc

end DataContract.Java
