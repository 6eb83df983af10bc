/-
The tags of an enumeration.

Every value of an enumeration has a tag on a line of its own, with the name of
the contract in quotes, and the name in Java on the next line.  Between these
lines there are blocks of documentation.  None of their lines can be taken for a
tag: they go on after the indent with a slash, or with a blank and a star.  So
the tags can be read back from the text, whatever the documentation says.
-/
import DataContract.Proofs.Java.Balance
import DataContract.Proofs.Java.BlockLines
import DataContract.Proofs.Text.Lowercase

namespace DataContract.Java

open DataContract.Text

/-! ### Reading tags -/

/-- What stands before the name in a tag. -/
def tagStart : String := "@SerializedName(\""

/-- What stands behind the name in a tag. -/
def tagStop : String := "\")"

/-- The name in a line that consists of a tag behind a margin. -/
def tagName? (margin line : List Char) : Option (List Char) :=
  (dropPrefix? (margin ++ tagStart.toList) line).bind (dropSuffix? tagStop.toList)

/-- The tags among lines: the name in each of them, and the line behind it if there is one. -/
def tagsOf (margin : List Char) : List (List Char) → List (List Char × Option (List Char))
  | [] => []
  | line :: rest =>
    (tagName? margin line).toList.map (fun name => (name, rest.head?)) ++ tagsOf margin rest

variable {margin line : List Char}

lemma tagName?_tag (margin name : List Char) :
    tagName? margin (margin ++ tagStart.toList ++ name ++ tagStop.toList) = some name := by
  rw [tagName?, List.append_assoc, dropPrefix?_eq_some_iff.mpr rfl, Option.bind_some,
    dropSuffix?_append]

/-- A tag goes on with an at sign behind the margin. -/
lemma tagName?_eq_none_of_start (h : ¬ margin ++ ['@'] <+: line) : tagName? margin line = none := by
  have hstart : tagStart.toList = '@' :: tagStart.toList.tail := by decide
  rw [tagName?, dropPrefix?_eq_none_iff.mpr, Option.bind_none]
  intro hprefix
  refine h (List.IsPrefix.trans ?_ hprefix)
  rw [hstart, List.prefix_append_right_inj, List.cons_prefix_cons]
  exact ⟨rfl, List.nil_prefix⟩

/-- A tag ends with a parenthesis. -/
lemma tagName?_eq_none_of_last (h : line.getLast? ≠ some ')') : tagName? margin line = none := by
  rw [Option.eq_none_iff_forall_ne_some]
  intro name hname
  obtain ⟨rest, hrest, hname⟩ := Option.bind_eq_some_iff.mp hname
  rw [dropPrefix?_eq_some_iff] at hrest
  rw [dropSuffix?_eq_some_iff] at hname
  refine h ?_
  have hstop : tagStop.toList.getLast? = some ')' := by decide
  rw [hrest, hname, ← List.append_assoc, List.getLast?_append, hstop]
  rfl

lemma tagsOf_cons_of_none (h : tagName? margin line = none) (rest : List (List Char)) :
    tagsOf margin (line :: rest) = tagsOf margin rest := by
  rw [tagsOf, h]
  rfl

lemma tagsOf_append_of_none {lines : List (List Char)}
    (h : ∀ line ∈ lines, tagName? margin line = none) (rest : List (List Char)) :
    tagsOf margin (lines ++ rest) = tagsOf margin rest := by
  induction lines with
  | nil => rfl
  | cons line lines ih =>
    rw [List.forall_mem_cons] at h
    rw [List.cons_append, tagsOf_cons_of_none h.1, ih h.2]

lemma tagsOf_tag (margin name next : List Char) (rest : List (List Char)) :
    tagsOf margin ((margin ++ tagStart.toList ++ name ++ tagStop.toList) :: next :: rest) =
      (name, some next) :: tagsOf margin (next :: rest) := by
  rw [tagsOf, tagName?_tag]
  rfl

/-! ### The lines of documentation -/

/-- A line of a block: behind the indent there is a slash, or a blank and a star. -/
def IsBlockLine (indent line : List Char) : Prop :=
  (∃ rest, line = indent ++ '/' :: rest) ∨ ∃ rest, line = indent ++ ' ' :: '*' :: rest

/-- A block has only such lines, and all of them are ended. -/
lemma Javadoc.exists_lines_block (j : Javadoc) {indent : String} (hindent : '\n' ∉ indent.toList)
    (comment : Option String) :
    ∃ lines : List (List Char), (j.block indent comment).toList = lines.flatMap (· ++ ['\n']) ∧
      ∀ line ∈ lines, '\n' ∉ line ∧ IsBlockLine indent.toList line := by
  by_cases hempty : j.block indent comment = ""
  · exact ⟨[], by rw [hempty]; rfl, by simp⟩
  · rw [j.block_eq_empty_iff_absent_or_blank, not_or] at hempty
    obtain ⟨text, rfl⟩ := Option.ne_none_iff_exists'.mp hempty.1
    have hblank : allBlank text.toList = false :=
      Bool.eq_false_iff.mpr (fun hblank => hempty.2 ⟨text, rfl, hblank⟩)
    refine ⟨_, j.toList_block indent hblank, fun line hline => ?_⟩
    simp only [framed, List.mem_append, List.mem_singleton, List.mem_map] at hline
    rcases hline with (rfl | ⟨content, hcontent, rfl⟩) | rfl
    · exact ⟨by simp [hindent], .inl ⟨_, rfl⟩⟩
    · have hfeed : '\n' ∉ content := by
        intro hmem
        have := (carries_of_mem_layout hcontent).not_separator hmem (by decide)
        exact absurd this (by decide)
      exact ⟨by simp [hindent, hfeed], .inr ⟨content, by simp⟩⟩
    · exact ⟨by simp [hindent], .inr ⟨['/'], by simp⟩⟩

lemma IsBlockLine.tagName?_eq_none {indent line : List Char} (h : IsBlockLine indent line) :
    tagName? indent line = none := by
  refine tagName?_eq_none_of_start ?_
  obtain ⟨rest, rfl⟩ | ⟨rest, rfl⟩ := h
  · simp [List.prefix_append_right_inj]
  · simp [List.prefix_append_right_inj]

/-- Nor is a line of a block taken for a tag that is indented once more. -/
lemma IsBlockLine.tagName?_indented_eq_none {indent line : List Char}
    (h : IsBlockLine indent line) :
    tagName? (indent ++ indentUnit.toList) line = none := by
  refine tagName?_eq_none_of_start ?_
  have hunit : indentUnit.toList = [' ', ' ', ' ', ' '] := by decide
  rw [hunit, List.append_assoc]
  obtain ⟨rest, rfl⟩ | ⟨rest, rfl⟩ := h
  · simp [List.prefix_append_right_inj]
  · simp [List.prefix_append_right_inj]

/-! ### The lines of an enumeration -/

/-- The line of a constant behind its tag. -/
def EnumConstant.nameLine (margin : List Char) (c : EnumConstant) : List Char :=
  margin ++ c.name.toList ++ [',']

lemma EnumConstant.toList_text (docs : Javadoc) (margin : String) (c : EnumConstant) :
    (c.text docs margin).toList =
      '\n' :: ((docs.block margin c.documentation).toList ++
        (margin.toList ++ tagStart.toList ++ c.serializedName.toList ++ tagStop.toList ++
          '\n' :: (c.nameLine margin.toList ++ ['\n']))) := by
  change ("\n" ++ docs.block margin c.documentation
    ++ (margin ++ (tagStart ++ c.serializedName ++ tagStop) ++ "\n")
    ++ (margin ++ (c.name ++ ",") ++ "\n")).toList = _
  simp [nameLine]

/-- The tags that are read from the constants of an enumeration.  They follow what is left of a
line, and the last of them is followed by the end of the enumeration. -/
lemma tagsOf_constants (docs : Javadoc) {margin : String} (hmargin : '\n' ∉ margin.toList)
    {cs : List EnumConstant}
    (hcs : ∀ c ∈ cs, '\n' ∉ c.serializedName.toList ∧ '\n' ∉ c.name.toList)
    {start ending : List Char} (hstart : '\n' ∉ start) (hending : '\n' ∉ ending)
    (hnone : tagName? margin.toList start = none)
    (hclosed : tagName? margin.toList (start ++ ending) = none)
    (hlast : tagName? margin.toList ending = none) :
    tagsOf margin.toList (pieces '\n' (start
        ++ (cs.map (EnumConstant.text docs margin)).flatMap String.toList ++ ending ++ ['\n'])) =
      cs.map (fun c => (c.serializedName.toList, some (c.nameLine margin.toList))) := by
  have hempty : tagName? margin.toList [] = none := tagName?_eq_none_of_start (by simp)
  induction cs generalizing start with
  | nil =>
    have hline : '\n' ∉ start ++ ending := by simp [hstart, hending]
    have htext : start ++ ([].map (EnumConstant.text docs margin)).flatMap String.toList ++ ending
        ++ ['\n'] = start ++ ending ++ '\n' :: [] := by simp
    rw [htext, pieces_append hline, tagsOf_cons_of_none hclosed, pieces,
      tagsOf_cons_of_none hempty]
    rfl
  | cons c cs ih =>
    rw [List.forall_mem_cons] at hcs
    obtain ⟨⟨hserialized, hname⟩, hcs⟩ := hcs
    obtain ⟨lines, hblock, hlines⟩ := docs.exists_lines_block hmargin c.documentation
    have htag : '\n' ∉ margin.toList ++ tagStart.toList ++ c.serializedName.toList
        ++ tagStop.toList := by
      simp [hmargin, hserialized, tagStart, tagStop]
    have hnameLine : '\n' ∉ c.nameLine margin.toList := by
      simp [EnumConstant.nameLine, hmargin, hname]
    have hcomma : tagName? margin.toList (c.nameLine margin.toList) = none :=
      tagName?_eq_none_of_last (by simp [EnumConstant.nameLine])
    -- the line feed before the constant ends what is left of the line before it
    have htext : start ++ ((c :: cs).map (EnumConstant.text docs margin)).flatMap String.toList
        ++ ending ++ ['\n'] =
        start ++ '\n' :: (lines.flatMap (· ++ ['\n']) ++ (margin.toList ++ tagStart.toList
          ++ c.serializedName.toList ++ tagStop.toList ++ '\n' :: (c.nameLine margin.toList
          ++ '\n' :: ([] ++ (cs.map (EnumConstant.text docs margin)).flatMap String.toList
            ++ ending ++ ['\n'])))) := by
      rw [List.map_cons, List.flatMap_cons, c.toList_text, hblock]
      simp only [List.append_assoc, List.cons_append, List.nil_append]
    rw [htext, pieces_append hstart,
      Javadoc.pieces_flatMap_append (fun line h => (hlines line h).1),
      pieces_append htag, pieces_append hnameLine, tagsOf_cons_of_none hnone,
      tagsOf_append_of_none (fun line h => (hlines line h).2.tagName?_eq_none), tagsOf_tag,
      tagsOf_cons_of_none hcomma, ih hcs (by simp) hempty hlast, List.map_cons]

lemma lineFeed_notMem_identifier {name : String} (h : '\n' ∉ name.toList) :
    '\n' ∉ (identifier name).toList := by
  unfold identifier
  split
  · simp
  · rename_i c rest hchars
    rw [hchars, List.mem_cons, not_or] at h
    rw [String.toList_ofList, List.mem_append, not_or]
    refine ⟨fun hmem => ?_, h.2⟩
    rcases lower_eq_self_or_le c with hself | hle
    · rw [hself, List.mem_singleton] at hmem
      exact h.1 hmem
    · exact absurd (hle '\n' hmem) (by decide)

/-- The tags that are read from the text of an enumeration in Java. -/
lemma tagsOf_enumeration (docs : Javadoc) {indent : String} (hindent : '\n' ∉ indent.toList)
    {head : TypeHead} (hhead : '\n' ∉ (head.line indent).toList) {cs : List EnumConstant}
    (hcs : ∀ c ∈ cs, '\n' ∉ c.serializedName.toList ∧ '\n' ∉ c.name.toList) :
    tagsOf (indent ++ indentUnit).toList
        (pieces '\n' ((TypeDeclaration.enumeration head cs).text docs indent).toList) =
      cs.map (fun c => (c.serializedName.toList,
        some (c.nameLine (indent ++ indentUnit).toList))) := by
  obtain ⟨lines, hblock, hlines⟩ := docs.exists_lines_block hindent head.documentation
  have hbrace : (head.line indent).toList.getLast? = some '\x7b' := by
    simp [TypeHead.line, openBrace]
  have htext : ((TypeDeclaration.enumeration head cs).text docs indent).toList =
      lines.flatMap (· ++ ['\n']) ++ ((head.line indent).toList
        ++ (cs.map (EnumConstant.text docs (indent ++ indentUnit))).flatMap String.toList
        ++ ((if cs.isEmpty then "" else indent).toList ++ ['\x7d']) ++ ['\n']) := by
    simp [TypeDeclaration.text_eq, TypeDeclaration.head, TypeDeclaration.inner,
      TypeDeclaration.isBare, hblock, closing, line, closeBrace]
  have hmargin : '\n' ∉ (indent ++ indentUnit).toList := by
    simp [hindent, indentUnit]
  have hending : '\n' ∉ (if cs.isEmpty then "" else indent).toList ++ ['\x7d'] := by
    split <;> simp [hindent]
  rw [htext, Javadoc.pieces_flatMap_append (fun line h => (hlines line h).1), tagsOf_append_of_none,
    tagsOf_constants docs hmargin hcs hhead hending]
  · exact tagName?_eq_none_of_last (by simp [hbrace])
  · exact tagName?_eq_none_of_last (by simp)
  · exact tagName?_eq_none_of_last (by simp)
  · intro line hline
    rw [String.toList_append]
    exact (hlines line hline).2.tagName?_indented_eq_none

namespace Dialect

/-- **The tags of an enumeration are the names of its values.**  The lines of its text that consist
of a tag, at the indent of its members, hold the names that the values have in the contract, in
order, and each of them is followed by the line with the name in Java and a comma.  So the names can
be read back from these lines; they do not depend on the documentation of the type and of its
values, nor on its other members. -/
theorem enumeration_tags_eq_names (x : Dialect) (docs : Javadoc) (excluded : String → Bool)
    (isNested : Bool) (indent : String) (hindent : '\n' ∉ indent.toList) (t : ContractType)
    (henum : t.decl.isEnum = true) (hname : '\n' ∉ t.name.toList)
    (hvalues : ∀ v ∈ t.decl.enumValues, '\n' ∉ v.name.toList) :
    ∃ type, (x.type excluded isNested t).outcome = .ok type ∧
      tagsOf (indent ++ indentUnit).toList (pieces '\n' (type.text docs indent).toList) =
        (t.decl.enumValues.map (·.name)).map (fun name =>
          (name.toList, some (indent ++ indentUnit ++ identifier name ++ ",").toList)) := by
  obtain ⟨d, ns⟩ := t
  have henum : d.isEnum = true := henum
  have htype : (x.type excluded isNested (.mk d ns)).outcome =
      .ok (.enumeration ⟨d.documentation, "public enum", d.name, none⟩
        (d.enumValues.map (fun v => ⟨v.documentation, v.name, identifier v.name⟩))) := by
    rw [type, if_pos henum]
    rfl
  refine ⟨_, htype, ?_⟩
  have hhead : '\n' ∉ ((⟨d.documentation, "public enum", d.name, none⟩ : TypeHead).line
      indent).toList := by
    have hname : '\n' ∉ d.name.toList := hname
    simp [TypeHead.line, TypeHead.opening, openBrace, hindent, hname]
  rw [tagsOf_enumeration docs hindent hhead]
  · simp [EnumConstant.nameLine, ContractType.decl]
  · intro c hc
    obtain ⟨v, hv, rfl⟩ := List.mem_map.mp hc
    exact ⟨hvalues v hv, lineFeed_notMem_identifier (hvalues v hv)⟩

/-- An enumeration by its base type, with documentation that looks like a tag, a value that ends
like one, and a member that is no value. -/
def tagExample : ContractType :=
  .mk ⟨"Mode", .plainClass, some "System.Enum", false, none, "Mode.cs", [
    .enumValue ⟨⟨"IPv4", .publicAccess, true,
      some "<summary>a\n@SerializedName(\"B\")\r\nc</summary>"⟩⟩,
    .constant ⟨⟨"Max", .publicAccess, true, none⟩, ⟨"int", false, false⟩, "1"⟩,
    .enumValue ⟨⟨"Any\")", .publicAccess, true, none⟩⟩]⟩ []

theorem tags_of_tagExample :
    ∃ type, ((⟨.standard "Tunnels", ⟨"Statics"⟩⟩ : Dialect).type (fun _ => false) true
        tagExample).outcome = .ok type ∧
      tagsOf "        ".toList (pieces '\n' (type.text ⟨"Tunnels", 90⟩ "    ").toList) =
        [("IPv4".toList, some "        iPv4,".toList),
          ("Any\")".toList, some "        any\"),".toList)] := by
  obtain ⟨type, htype, htags⟩ := enumeration_tags_eq_names ⟨.standard "Tunnels", ⟨"Statics"⟩⟩
    ⟨"Tunnels", 90⟩ (fun _ => false) true "    " (by decide) tagExample (by decide) (by decide)
    (by decide)
  exact ⟨type, htype, htags⟩

end Dialect

end DataContract.Java
