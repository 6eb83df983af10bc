/-
The block of a comment of sections.

The block depends only on the content of the sections of each kind: it shows the
summary, the remarks, the parameters in their order and what is returned, wherever
these stand in the comment.  Nothing is lost or made up on the way, since wrapping,
trimming and putting text on one line keep its words.
-/
import DataContract.Proofs.Java.BlockLines
import DataContract.Proofs.Java.Sections

namespace DataContract.Java

open DataContract.Text

/-! ### The parts of a block -/

/-- What is written for a parameter. -/
def parameterEntry (parameter : List Char × List Char) : List Char :=
  "@param ".toList ++ (identifier (String.ofList parameter.1)).toList ++ ' ' :: parameter.2

/-- What is written for the parameters, and for what is returned unless that is blank. -/
def entries (secs : List Section) : List (List Char) :=
  (secs.filterMap Section.parameter?).map parameterEntry
  ++ (if allBlank (contentOf .returns secs) then []
    else ["@return ".toList ++ contentOf .returns secs])

/-- What is written, in order. -/
def writtenParts (secs : List Section) : List (List Char) :=
  contentOf .summary secs :: contentOf .remarks secs :: entries secs

/-- A comment of well-formed sections, of which only parameters occur more than once. -/
structure IsSectioned (secs : List Section) (comment : List Char) : Prop where
  wellFormed : ∀ sec ∈ secs, sec.IsWellFormed
  once : ∀ tag, tag.isParam = false → AtMostOnce tag secs
  consists : Consists secs comment

section Contents

variable {secs : List Section} {tag : SectionTag} {f : List Char → List Char}

lemma filter_map_mapContent (tag : SectionTag) (f : List Char → List Char) (secs : List Section) :
    (secs.map (Section.mapContent f)).filter (·.tag = tag) =
      (secs.filter (·.tag = tag)).map (Section.mapContent f) := by
  rw [List.filter_map]
  rfl

lemma AtMostOnce.map (h : AtMostOnce tag secs) (f : List Char → List Char) :
    AtMostOnce tag (secs.map (Section.mapContent f)) := by
  rw [AtMostOnce, filter_map_mapContent, List.length_map]
  exact h

lemma AtMostOnce.contentOf_map (h : AtMostOnce tag secs) (hf : f [] = []) :
    contentOf tag (secs.map (Section.mapContent f)) = f (contentOf tag secs) := by
  rw [contentOf, contentOf, filter_map_mapContent]
  rw [AtMostOnce] at h
  cases hfilter : secs.filter (·.tag = tag) with
  | nil => exact hf.symm
  | cons sec more =>
    rw [hfilter, List.length_cons] at h
    have hmore : more = [] := List.length_eq_zero_iff.mp (by omega)
    simp [hmore, Section.mapContent]

lemma filterMap_parameter?_map (f : List Char → List Char) (secs : List Section) :
    (secs.map (Section.mapContent f)).filterMap Section.parameter? =
      (secs.filterMap Section.parameter?).map (Prod.map id f) := by
  rw [List.filterMap_map, List.map_filterMap]
  refine List.filterMap_congr (fun sec _ => ?_)
  obtain ⟨tag, content⟩ := sec
  cases tag <;> rfl

/-- Sections of a kind that occurs once are the same in any order. -/
lemma AtMostOnce.contentOf_perm {secs' : List Section} (h : AtMostOnce tag secs)
    (hperm : secs'.Perm secs) : contentOf tag secs' = contentOf tag secs := by
  have hfilter := hperm.filter (fun sec => decide (sec.tag = tag))
  rw [AtMostOnce] at h
  rw [contentOf, contentOf]
  cases hsecs : secs.filter (·.tag = tag) with
  | nil =>
    rw [hsecs, List.perm_nil] at hfilter
    rw [hfilter]
  | cons sec more =>
    rw [hsecs, List.length_cons] at h
    have hmore : more = [] := List.length_eq_zero_iff.mp (by omega)
    rw [hsecs, hmore, List.perm_singleton] at hfilter
    rw [hfilter, hmore]

end Contents

/-! ### The block -/

section Block

variable {secs : List Section}

lemma Consists.allBlank_iff {s : List Char} (h : Consists secs s) :
    allBlank s = true ↔ secs = [] := by
  cases h with
  | blank hgap => simpa using hgap
  | @cons gap sec secs rest hgap _ =>
    have hbracket : '<' ∈ sec.source := by
      have hhead := (sectionMarks_apart _ sec.tag.start_mem_sectionMarks).1
      exact List.mem_append_left _ (List.mem_of_mem_head? hhead)
    refine ⟨fun hblank => ?_, fun hnil => by cases hnil⟩
    refine absurd ?_ (bracket_notMem_of_allBlank hblank)
    exact List.mem_append_right _ (List.mem_append_left _ hbracket)

lemma isEmpty_trim (s : List Char) : (trim s).isEmpty = allBlank (trim s) := by
  have htrim : trimRight (trim s) = trim s := trimRight_trimRight _
  rw [Bool.eq_iff_iff, List.isEmpty_iff, ← trimRight_eq_nil_iff, htrim]

/-- The parts of a text on one line are what is written for its sections, without blank ends. -/
lemma IsSectioned.parts_eq {s : List Char} (h : IsSectioned secs s) :
    outerSection "<summary>".toList "</summary>".toList s =
        contentOf .summary (secs.map (Section.mapContent trim)) ∧
      outerSection "<remarks>".toList "</remarks>".toList s =
        contentOf .remarks (secs.map (Section.mapContent trim)) ∧
      Javadoc.tagParts s = entries (secs.map (Section.mapContent trim)) := by
  have hsummary := h.consists.outerSection_eq rfl h.wellFormed (h.once .summary rfl)
  have hremarks := h.consists.outerSection_eq rfl h.wellFormed (h.once .remarks rfl)
  have hreturns := h.consists.innerSection_eq rfl h.wellFormed (h.once .returns rfl)
  simp only [SectionTag.start, SectionTag.closing] at hsummary hremarks hreturns
  refine ⟨?_, ?_, ?_⟩
  · rw [hsummary, (h.once .summary rfl).contentOf_map rfl]
  · rw [hremarks, (h.once .remarks rfl).contentOf_map rfl]
  · have hentry : (fun parameter : List Char × List Char => "@param ".toList ++
        (identifier (String.ofList parameter.1)).toList ++ [' '] ++ trim parameter.2) =
          parameterEntry ∘ Prod.map id trim := by
      funext parameter
      rw [List.append_assoc, List.singleton_append]
      rfl
    rw [Javadoc.tagParts, entries, hreturns, (h.once .returns rfl).contentOf_map rfl,
      h.consists.parameterSections_eq h.wellFormed, filterMap_parameter?_map, List.map_map,
      ← hentry, isEmpty_trim]

lemma IsSectioned.flatten {comment : String} (h : IsSectioned secs comment.toList) (ns : String) :
    IsSectioned (secs.map (Section.mapContent onOneLine)) (flatten ns comment) where
  wellFormed := forall_isWellFormed_lined h.wellFormed
  once tag htag := (h.once tag htag).map onOneLine
  consists := h.consists.flatten h.wellFormed ns

/-- A block of sections is laid out from what is written for them. -/
lemma IsSectioned.toList_block {comment : String} (h : IsSectioned secs comment.toList)
    (hne : secs ≠ []) (j : Javadoc) (indent : String) :
    let trimmed := secs.map (Section.mapContent (fun s => trim (onOneLine s)))
    (j.block indent (some comment)).toList =
      (Javadoc.framed indent.toList (Javadoc.layout (j.maxWidth - 3 - indent.toList.length)
        (contentOf .summary trimmed) (contentOf .remarks trimmed) (entries trimmed))).flatMap
          (· ++ ['\n']) := by
  intro trimmed
  have hblank : allBlank comment.toList = false := by
    rw [Bool.eq_false_iff]
    exact fun hblank => hne (h.consists.allBlank_iff.mp hblank)
  have hmap : (secs.map (Section.mapContent onOneLine)).map (Section.mapContent trim) =
      trimmed := by
    rw [List.map_map]
    rfl
  obtain ⟨hsummary, hremarks, htags⟩ := (h.flatten j.namespaceName).parts_eq
  rw [hmap] at hsummary hremarks htags
  rw [j.toList_block indent hblank, hsummary, hremarks, htags]

end Block

/-! ### Words -/

lemma flatMap_words_wrapped (width : Int) (part : List Char) :
    (Javadoc.wrapped width part).flatMap words = words part := by
  have hline (line : List Char) : words (trimRight (' ' :: line)) = words line := by
    rw [words_trimRight]
    exact words_append_cons (s := []) (by decide) line
  rw [Javadoc.wrapped, List.flatMap_map]
  simp only [hline]
  exact flatMap_words_wrap width part

/-- The lines of a block have the words of its parts, in order. -/
lemma flatMap_words_layout (width : Int) (summary remarks : List Char) (tags : List (List Char)) :
    (Javadoc.layout width summary remarks tags).flatMap words =
      (summary :: remarks :: tags).flatMap words := by
  have hremarks : (if remarks.isEmpty then [] else
      [] :: Javadoc.wrapped width remarks).flatMap words = words remarks := by
    split
    · rename_i hempty
      rw [List.isEmpty_iff.mp hempty]
      rfl
    · exact flatMap_words_wrapped width remarks
  have htags : (if tags.isEmpty then [] else
      [] :: tags.flatMap (Javadoc.wrapped width)).flatMap words = tags.flatMap words := by
    split
    · rename_i hempty
      rw [List.isEmpty_iff.mp hempty]
    · rw [List.flatMap_cons, List.flatMap_assoc]
      simp only [flatMap_words_wrapped]
      rfl
  rw [Javadoc.layout, List.flatMap_append, List.flatMap_append, flatMap_words_wrapped, hremarks,
    htags, List.flatMap_cons, List.flatMap_cons, List.append_assoc]

/-- What is written has the same words if the contents have. -/
lemma flatMap_words_writtenParts {secs : List Section}
    (honce : ∀ tag, tag.isParam = false → AtMostOnce tag secs) {f g : List Char → List Char}
    (hf : f [] = []) (hg : g [] = []) (h : ∀ s, words (f s) = words (g s)) :
    (writtenParts (secs.map (Section.mapContent f))).flatMap words =
      (writtenParts (secs.map (Section.mapContent g))).flatMap words := by
  have hbehind (front s : List Char) :
      words (front ++ ' ' :: f s) = words (front ++ ' ' :: g s) := by
    rw [words_append_cons (by decide), words_append_cons (by decide), h]
  have hblank (s : List Char) : allBlank (f s) = allBlank (g s) := by
    rw [Bool.eq_iff_iff, ← words_eq_nil_iff, ← words_eq_nil_iff, h]
  have hreturn (s : List Char) :
      words ("@return ".toList ++ f s) = words ("@return ".toList ++ g s) :=
    hbehind "@return".toList s
  have hentry (parameter : List Char × List Char) :
      words (parameterEntry (Prod.map id f parameter)) =
        words (parameterEntry (Prod.map id g parameter)) := hbehind _ _
  simp only [writtenParts, entries, List.flatMap_cons, List.flatMap_append,
    (honce .summary rfl).contentOf_map hf, (honce .summary rfl).contentOf_map hg,
    (honce .remarks rfl).contentOf_map hf, (honce .remarks rfl).contentOf_map hg,
    (honce .returns rfl).contentOf_map hf, (honce .returns rfl).contentOf_map hg,
    filterMap_parameter?_map, List.flatMap_map, h, hblank, hentry]
  split
  · rfl
  · rw [List.flatMap_singleton, List.flatMap_singleton, hreturn]

/-! ### Order -/

lemma IsSectioned.of_perm {secs secs' : List Section} {s s' : List Char} (h : IsSectioned secs s)
    (hperm : secs'.Perm secs) (hs' : Consists secs' s') : IsSectioned secs' s' where
  wellFormed sec hsec := h.wellFormed sec (hperm.subset hsec)
  once tag htag := by
    rw [AtMostOnce, (hperm.filter _).length_eq]
    exact h.once tag htag
  consists := hs'

/-- Sections in another order are written the same, since none but parameters occurs twice. -/
lemma IsSectioned.block_eq_of_perm {secs secs' : List Section} {comment comment' : String}
    (h : IsSectioned secs comment.toList) (h' : IsSectioned secs' comment'.toList)
    (hne : secs ≠ []) (hperm : secs'.Perm secs)
    (hparams : secs'.filterMap Section.parameter? = secs.filterMap Section.parameter?)
    (j : Javadoc) (indent : String) :
    j.block indent (some comment') = j.block indent (some comment) := by
  have hne' : secs' ≠ [] := fun hnil => hne (List.nil_perm.mp (hnil ▸ hperm))
  have hcontent (tag : SectionTag) (htag : tag.isParam = false) (f : List Char → List Char) :
      contentOf tag (secs'.map (Section.mapContent f)) =
        contentOf tag (secs.map (Section.mapContent f)) :=
    ((h.once tag htag).map f).contentOf_perm (hperm.map _)
  rw [← String.toList_inj, h'.toList_block hne', h.toList_block hne]
  simp only [entries, hcontent .summary rfl, hcontent .remarks rfl, hcontent .returns rfl,
    filterMap_parameter?_map, hparams]

/-- The order of the sections does not matter for the block, except for that of the parameters among
each other.  The block shows the summary, the remarks, the parameters and what is returned, in this
order, and has their words, read without the carriage returns. -/
theorem block_of_sections (j : Javadoc) (indent : String) {secs secs' : List Section}
    {comment comment' : String} (h : IsSectioned secs comment.toList)
    (h' : Consists secs' comment'.toList) (hperm : secs'.Perm secs)
    (hparams : secs'.filterMap Section.parameter? = secs.filterMap Section.parameter?) :
    j.block indent (some comment') = j.block indent (some comment) ∧
    (secs = [] → j.block indent (some comment) = "") ∧
    (secs ≠ [] →
      let trimmed := secs.map (Section.mapContent (fun s => trim (onOneLine s)))
      let contents := Javadoc.layout (j.maxWidth - 3 - indent.toList.length)
        (contentOf .summary trimmed) (contentOf .remarks trimmed) (entries trimmed)
      (j.block indent (some comment)).toList =
          (Javadoc.framed indent.toList contents).flatMap (· ++ ['\n']) ∧
        contents.flatMap words =
          (writtenParts (secs.map (Section.mapContent (·.filter (· != '\r'))))).flatMap words) := by
  have hempty {secs : List Section} {comment : String} (hs : Consists secs comment.toList)
      (hnil : secs = []) : j.block indent (some comment) = "" :=
    (j.block_eq_empty_iff_absent_or_blank indent (some comment)).mpr
      (.inr ⟨comment, rfl, hs.allBlank_iff.mpr hnil⟩)
  refine ⟨?_, hempty h.consists, fun hne => ⟨h.toList_block hne j indent, ?_⟩⟩
  · by_cases hnil : secs = []
    · rw [hempty h.consists hnil, hempty h' (List.perm_nil.mp (hnil ▸ hperm))]
    · exact h.block_eq_of_perm (h.of_perm hperm h') hnil hperm hparams j indent
  · rw [flatMap_words_layout]
    refine flatMap_words_writtenParts h.once rfl rfl (fun s => ?_)
    rw [words_trim, onOneLine, words_joined]

theorem block_of_sections_swapped :
    let summary : Section := ⟨.summary, "A\r\n  sum".toList⟩
    let param : Section := ⟨.param "Id".toList, "the id".toList⟩
    let comment := String.ofList (summary.source ++ ("\r\n".toList ++ (param.source ++ [])))
    let comment' := String.ofList (param.source ++ (summary.source ++ []))
    IsSectioned [summary, param] comment.toList ∧ Consists [param, summary] comment'.toList ∧
      Javadoc.block ⟨"N", 90⟩ "" (some comment') = Javadoc.block ⟨"N", 90⟩ "" (some comment) ∧
      ∃ contents, (Javadoc.block ⟨"N", 90⟩ "" (some comment)).toList =
          (Javadoc.framed [] contents).flatMap (· ++ ['\n']) ∧
        contents.flatMap words = ["A", "sum", "@param", "id", "the", "id"].map String.toList := by
  intro summary param comment comment'
  have h : IsSectioned [summary, param] comment.toList := by
    refine ⟨by decide, fun tag htag => ?_, ?_⟩
    · cases tag with
      | param name => cases htag
      | _ => decide
    · rw [String.toList_ofList]
      exact @Consists.cons [] _ _ _ rfl (.cons rfl (.blank rfl))
  have h' : Consists [param, summary] comment'.toList := by
    rw [String.toList_ofList]
    exact @Consists.cons [] _ _ _ rfl (@Consists.cons [] _ _ _ rfl (.blank rfl))
  obtain ⟨hsame, -, hblock⟩ := block_of_sections ⟨"N", 90⟩ "" h h' (.swap _ _ _) rfl
  obtain ⟨hlines, hwords⟩ := hblock (List.cons_ne_nil _ _)
  exact ⟨h, h', hsame, _, hlines, hwords.trans (by decide)⟩

/-- A carriage return that parts two words of a section does not do so in the block. -/
theorem block_of_sections_return : ¬ ∀ (j : Javadoc) (indent : String) (secs : List Section)
    (comment : String), IsSectioned secs comment.toList → secs ≠ [] → ∀ contents : List (List Char),
      (j.block indent (some comment)).toList =
          (Javadoc.framed indent.toList contents).flatMap (· ++ ['\n']) →
        contents.flatMap words = (writtenParts secs).flatMap words := by
  intro h
  have hsectioned : IsSectioned [⟨.summary, "a\rb".toList⟩] "<summary>a\rb</summary>".toList := by
    refine ⟨by decide, fun tag _ => List.length_filter_le _ _, ?_⟩
    exact @Consists.cons [] _ _ [] rfl (.blank rfl)
  have hwords := h ⟨"N", 90⟩ "" _ _ hsectioned (List.cons_ne_nil _ _) _
    (hsectioned.toList_block (List.cons_ne_nil _ _) ⟨"N", 90⟩ "")
  rw [flatMap_words_layout] at hwords
  revert hwords
  decide

end DataContract.Java
