/-
The lines of a Javadoc block.

A block is a first and a last line with the lines of its parts in between.  Each
of these starts with the indent and a star, carries what was wrapped, and has no
blank at its end.  So it is not wider than a line may be, unless it carries nothing
or a single word.
-/
import DataContract.Java.Javadoc
import DataContract.Proofs.Text.GreedyFill
import DataContract.Proofs.Text.Occurrence

namespace DataContract.Java.Javadoc

open DataContract.Text

/-! ### What the lines carry -/

/-- What the lines of a part carry after the star. -/
def wrapped (width : Int) (part : List Char) : List (List Char) :=
  (wrap width part).map (fun line => trimRight (' ' :: line))

/-- What the lines between the two ends of a block carry after the star: the summary, and after a
line that carries nothing the remarks, and after another one the tags. -/
def layout (width : Int) (summary remarks : List Char) (tags : List (List Char)) :
    List (List Char) :=
  wrapped width summary
  ++ (if remarks.isEmpty then [] else [] :: wrapped width remarks)
  ++ (if tags.isEmpty then [] else [] :: tags.flatMap (wrapped width))

/-- The lines of a block from what they carry. -/
def framed (indent : List Char) (contents : List (List Char)) : List (List Char) :=
  [indent ++ "/**".toList] ++ contents.map (indent ++ " *".toList ++ ·) ++ [indent ++ " */".toList]

lemma partLines_eq (indent : List Char) (width : Int) (part : List Char) :
    partLines indent width part = (wrapped width part).map (indent ++ " *".toList ++ ·) := by
  rw [partLines, wrapped, List.map_map]
  refine List.map_congr_left (fun line _ => ?_)
  have hstar : indent ++ " * ".toList ++ line = (indent ++ [' ']) ++ '*' :: ' ' :: line := by simp
  rw [hstar, trimRight_append_cons (by decide)]
  simp

lemma bodyLines_eq (indent : List Char) (width : Int) (text : List Char) :
    bodyLines indent width text =
      (layout width (outerSection "<summary>".toList "</summary>".toList text)
        (outerSection "<remarks>".toList "</remarks>".toList text) (tagParts text)).map
          (indent ++ " *".toList ++ ·) := by
  have hparts : partLines indent width =
      fun part => (wrapped width part).map (indent ++ " *".toList ++ ·) :=
    funext (partLines_eq indent width)
  simp only [bodyLines, layout, hparts, List.map_append, apply_ite (List.map _), List.map_nil,
    List.map_cons, List.append_nil, List.map_flatMap]

/-- The lines of the block of a comment that is not blank. -/
lemma toList_block (j : Javadoc) (indent : String) {comment : String}
    (h : allBlank comment.toList = false) :
    (j.block indent (some comment)).toList =
      (framed indent.toList (layout (j.maxWidth - 3 - indent.toList.length)
        (outerSection "<summary>".toList "</summary>".toList (flatten j.namespaceName comment))
        (outerSection "<remarks>".toList "</remarks>".toList (flatten j.namespaceName comment))
        (tagParts (flatten j.namespaceName comment)))).flatMap (· ++ ['\n']) := by
  rw [block, h, framed, ← bodyLines_eq]
  exact String.toList_ofList

/-- A comment that is absent or blank has no block, and any other one has. -/
lemma block_eq_empty_iff_absent_or_blank (j : Javadoc) (indent : String) (comment : Option String) :
    j.block indent comment = "" ↔
      comment = none ∨ ∃ text, comment = some text ∧ allBlank text.toList = true := by
  cases comment with
  | none => simp [block]
  | some text =>
    cases hblank : allBlank text.toList with
    | true => simp [block, hblank]
    | false =>
      simp only [← String.toList_inj, j.toList_block indent hblank]
      simp [framed, hblank]

/-! ### The shape of a line -/

/-- A line that carries nothing, or a text that neither starts a line of its own nor ends with a
blank, and is not too wide unless it is a single word. -/
inductive Carries (width : Int) : List Char → Prop
  | nothing : Carries width []
  | text {s : List Char} (hne : s ≠ []) (hlast : ∀ c ∈ s.getLast?, isBlank c = false)
      (hsep : ∀ c ∈ s, c ≠ ' ' → isSeparator c = false)
      (hfits : (s.length : Int) ≤ max width 1 ∨ ' ' ∉ s) : Carries width (' ' :: s)

lemma carries_of_mem_wrapped {width : Int} {part content : List Char}
    (h : content ∈ wrapped width part) : Carries width content := by
  obtain ⟨line, hline, rfl⟩ := List.mem_map.mp h
  rw [trimRight_cons]
  split
  · exact .nothing
  · rename_i hblank
    have hstart := trimRight_isPrefix line
    have hne : trimRight line ≠ [] := by
      intro hnil
      rw [trimRight_eq_nil_iff] at hnil
      refine hblank ?_
      rw [allBlank, List.all_cons, ← allBlank, hnil]
      decide
    refine .text hne (fun c hc => not_blank_of_getLast?_trimRight hc)
      (fun c hc hspace => not_separator_of_mem_wrap hline (hstart.subset hc) hspace) ?_
    rcases fits_of_mem_wrap hline with hfits | hspace
    · have hle := hstart.length_le
      exact .inl (by omega)
    · exact .inr (fun hmem => hspace (hstart.subset hmem))

lemma carries_of_mem_layout {width : Int} {summary remarks content : List Char}
    {tags : List (List Char)} (h : content ∈ layout width summary remarks tags) :
    Carries width content := by
  rw [layout, List.mem_append, List.mem_append] at h
  rcases h with (h | h) | h
  · exact carries_of_mem_wrapped h
  · split at h
    · cases h
    · rcases List.mem_cons.mp h with rfl | h
      · exact .nothing
      · exact carries_of_mem_wrapped h
  · split at h
    · cases h
    · rcases List.mem_cons.mp h with rfl | h
      · exact .nothing
      · obtain ⟨tag, -, htag⟩ := List.mem_flatMap.mp h
        exact carries_of_mem_wrapped htag

/-! ### Blocks -/

/-- The shape of a line between the two ends of a block. -/
structure IsBodyLine (maxWidth : Int) (indent line : List Char) : Prop where
  star : line = indent ++ " *".toList ∨ indent ++ " * ".toList <+: line
  trimmed : ∀ c ∈ line.getLast?, isBlank c = false
  fits : (line.length : Int) ≤ maxWidth ∨ line = indent ++ " *".toList ∨
    ∃ word, line = indent ++ " * ".toList ++ word ∧ ∀ c ∈ word, isSeparator c = false

/-- A text with a space that does not end with a blank has a second character. -/
lemma two_le_length {s : List Char} (hlast : ∀ c ∈ s.getLast?, isBlank c = false)
    (hspace : ' ' ∈ s) : 2 ≤ s.length := by
  rcases List.eq_nil_or_concat s with rfl | ⟨front, c, rfl⟩
  · cases hspace
  · have hc : c ≠ ' ' := by
      rintro rfl
      exact absurd (hlast ' ' (by simp)) (by decide)
    have hfront : ' ' ∈ front := by simpa [hc.symm] using hspace
    have hpos := List.length_pos_of_mem hfront
    rw [List.length_concat]
    omega

lemma Carries.isBodyLine {maxWidth : Int} {indent content : List Char}
    (h : Carries (maxWidth - 3 - indent.length) content) :
    IsBodyLine maxWidth indent (indent ++ " *".toList ++ content) := by
  cases h with
  | nothing =>
    rw [List.append_nil]
    refine ⟨.inl rfl, fun c hc => ?_, .inr (.inl rfl)⟩
    rw [List.getLast?_append_of_ne_nil _ (by decide)] at hc
    cases hc
    decide
  | @text s hne hlast hsep hfits =>
    have hline : indent ++ " *".toList ++ ' ' :: s = indent ++ " * ".toList ++ s := by simp
    rw [hline]
    refine ⟨.inr (List.prefix_append _ s), ?_, ?_⟩
    · rwa [List.getLast?_append_of_ne_nil _ hne]
    · by_cases hspace : ' ' ∈ s
      · -- A text with a space is within the width, which is then not the least one.
        left
        have htwo := two_le_length hlast hspace
        have hwidth := hfits.resolve_right (not_not.mpr hspace)
        have hstar : " * ".toList.length = 3 := rfl
        simp only [List.length_append, hstar]
        omega
      · refine .inr (.inr ⟨s, rfl, fun c hc => hsep c hc ?_⟩)
        rintro rfl
        exact hspace hc

/-- A text laid out as a block: its lines, the last of which is ended too. -/
structure IsBlock (maxWidth : Int) (indent text : List Char) : Prop where
  lines : ∃ body, body ≠ [] ∧
    pieces '\n' text = (indent ++ "/**".toList) :: body ++ [indent ++ " */".toList, []] ∧
    ∀ line ∈ body, IsBodyLine maxWidth indent line
  unbroken : ∀ c ∈ text, c ≠ '\r' ∧ c ≠ '\x0b' ∧ c ≠ '\x0c'

/-- Lines that are ended are the first lines of a text, whatever follows. -/
lemma pieces_flatMap_append {lines : List (List Char)} (h : ∀ line ∈ lines, '\n' ∉ line)
    (rest : List Char) :
    pieces '\n' (lines.flatMap (· ++ ['\n']) ++ rest) = lines ++ pieces '\n' rest := by
  induction lines with
  | nil => rfl
  | cons line lines ih =>
    rw [List.forall_mem_cons] at h
    rw [List.flatMap_cons, List.append_assoc, List.append_assoc, List.singleton_append,
      pieces_append h.1, ih h.2]
    rfl

lemma pieces_flatMap_lineFeed {lines : List (List Char)} (h : ∀ line ∈ lines, '\n' ∉ line) :
    pieces '\n' (lines.flatMap (· ++ ['\n'])) = lines ++ [[]] := by
  simpa [pieces] using pieces_flatMap_append h []

lemma Carries.not_separator {width : Int} {content : List Char} (h : Carries width content)
    {c : Char} (hc : c ∈ content) (hne : c ≠ ' ') : isSeparator c = false := by
  cases h with
  | nothing => cases hc
  | text _ _ hsep _ => exact hsep c ((List.mem_cons.mp hc).resolve_left hne) hne

/-- The lines of a block have no separator but the space. -/
lemma not_separator_of_mem_framed {width : Int} {indent line : List Char}
    {contents : List (List Char)} (hindent : ∀ c ∈ indent, c = ' ')
    (hcontents : ∀ content ∈ contents, Carries width content) (h : line ∈ framed indent contents)
    {c : Char} (hc : c ∈ line) (hne : c ≠ ' ') : isSeparator c = false := by
  have hmark : ∀ mark : List Char, (mark.all (fun c => c == ' ' || !isSeparator c)) = true →
      c ∈ indent ++ mark → isSeparator c = false := by
    intro mark hmark hmem
    rcases List.mem_append.mp hmem with hmem | hmem
    · exact absurd (hindent c hmem) hne
    · simpa [hne] using List.all_eq_true.mp hmark c hmem
  simp only [framed, List.mem_append, List.mem_singleton, List.mem_map] at h
  rcases h with (rfl | ⟨content, hcontent, rfl⟩) | rfl
  · exact hmark "/**".toList (by decide) hc
  · rcases List.mem_append.mp hc with hc | hc
    · exact hmark " *".toList (by decide) hc
    · exact (hcontents content hcontent).not_separator hc hne
  · exact hmark " */".toList (by decide) hc

lemma isBlock_framed {maxWidth : Int} {indent : List Char} {contents : List (List Char)}
    (hindent : ∀ c ∈ indent, c = ' ') (hne : contents ≠ [])
    (hcontents : ∀ content ∈ contents, Carries (maxWidth - 3 - indent.length) content) :
    IsBlock maxWidth indent ((framed indent contents).flatMap (· ++ ['\n'])) := by
  have hsep : ∀ line ∈ framed indent contents, ∀ c, isSeparator c = true → c ≠ ' ' → c ∉ line := by
    intro line hline c hc hspace hmem
    rw [not_separator_of_mem_framed hindent hcontents hline hmem hspace] at hc
    exact Bool.noConfusion hc
  have hfeed : ∀ line ∈ framed indent contents, '\n' ∉ line :=
    fun line hline => hsep line hline '\n' (by decide) (by decide)
  constructor
  · refine ⟨contents.map (indent ++ " *".toList ++ ·), by simpa using hne, ?_, ?_⟩
    · rw [pieces_flatMap_lineFeed hfeed, framed]
      simp
    · rw [List.forall_mem_map]
      exact fun content hcontent => (hcontents content hcontent).isBodyLine
  · intro c hc
    obtain ⟨line, hline, hmem⟩ := List.mem_flatMap.mp hc
    rcases List.mem_append.mp hmem with hmem | hmem
    · have hbreak : ∀ d, isSeparator d = true → d ≠ ' ' → c ≠ d := by
        rintro d hd hspace rfl
        exact hsep line hline c hd hspace hmem
      exact ⟨hbreak _ (by decide) (by decide), hbreak _ (by decide) (by decide),
        hbreak _ (by decide) (by decide)⟩
    · rw [List.mem_singleton.mp hmem]
      decide

lemma layout_ne_nil (width : Int) (summary remarks : List Char) (tags : List (List Char)) :
    layout width summary remarks tags ≠ [] := by
  simp [layout, wrapped, wrap_ne_nil]

/-- A comment has no block exactly if it is absent or blank.  A block has a line for its start and
one for its end, and in between lines with a star that are not too wide unless they carry nothing or
a single word, whatever line breaks the comment has. -/
theorem block_isBlock (j : Javadoc) (indent : String) (hindent : ∀ c ∈ indent.toList, c = ' ')
    (comment : Option String) :
    (j.block indent comment = "" ↔
      comment = none ∨ ∃ text, comment = some text ∧ allBlank text.toList = true) ∧
    (j.block indent comment ≠ "" →
      IsBlock j.maxWidth indent.toList (j.block indent comment).toList) := by
  have hempty := j.block_eq_empty_iff_absent_or_blank indent comment
  refine ⟨hempty, fun hblock => ?_⟩
  rw [ne_eq, hempty] at hblock
  cases comment with
  | none => exact absurd (.inl rfl) hblock
  | some text =>
    have hblank : allBlank text.toList = false :=
      Bool.eq_false_iff.mpr (fun hblank => hblock (.inr ⟨text, rfl, hblank⟩))
    rw [j.toList_block indent hblank]
    exact isBlock_framed hindent (layout_ne_nil _ _ _ _) (fun _ h => carries_of_mem_layout h)

theorem block_isBlock_narrow :
    (⟨"Tunnels", 12⟩ : Javadoc).block "    "
        (some "<summary>one\r\n\x0c two <c>seventeen</c>\t\x0bthree </summary>") ≠ "" ∧
      IsBlock 12 "    ".toList ((⟨"Tunnels", 12⟩ : Javadoc).block "    "
        (some "<summary>one\r\n\x0c two <c>seventeen</c>\t\x0bthree </summary>")).toList := by
  obtain ⟨hempty, hblock⟩ := block_isBlock ⟨"Tunnels", 12⟩ "    " (by simp)
    (some "<summary>one\r\n\x0c two <c>seventeen</c>\t\x0bthree </summary>")
  have hne : (⟨"Tunnels", 12⟩ : Javadoc).block "    "
      (some "<summary>one\r\n\x0c two <c>seventeen</c>\t\x0bthree </summary>") ≠ "" := by
    rw [ne_eq, hempty]
    simp only [reduceCtorEq, Option.some.injEq, false_or, exists_eq_left', Bool.not_eq_true]
    decide
  exact ⟨hne, hblock hne⟩

end DataContract.Java.Javadoc
