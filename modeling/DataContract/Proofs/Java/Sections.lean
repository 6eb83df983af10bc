/-
The sections of a comment, and where they are found.

A comment consists of sections with blanks between them.  The marks of sections and
the openings of inline tags all differ, and text outside of them has no bracket:
so a mark is found in no section but its own, whatever order the sections have, and
no rule for inline tags changes a comment of sections.
-/
import DataContract.Proofs.Java.InlineTags
import DataContract.Proofs.Java.JoinedLines

namespace DataContract.Java

open DataContract.Text

/-! ### Sections -/

/-- The opening tag of a section. -/
inductive SectionTag
  | summary
  | remarks
  | returns
  | param (name : List Char)
  deriving DecidableEq

namespace SectionTag

/-- What an opening tag starts with. -/
def start : SectionTag → String
  | summary => "<summary>"
  | remarks => "<remarks>"
  | returns => "<returns>"
  | param _ => "<param name=\""

/-- What follows in an opening tag. -/
def label : SectionTag → List Char
  | param name => name ++ ['"', '>']
  | _ => []

def closing : SectionTag → String
  | summary => "</summary>"
  | remarks => "</remarks>"
  | returns => "</returns>"
  | param _ => "</param>"

def IsWellFormed : SectionTag → Prop
  | param name => name ≠ [] ∧ IsTagText name
  | _ => True

instance : DecidablePred IsWellFormed
  | param name => inferInstanceAs (Decidable (name ≠ [] ∧ IsTagText name))
  | summary | remarks | returns => inferInstanceAs (Decidable True)

end SectionTag

/-- A part of a comment between an opening and a closing tag. -/
structure Section where
  tag : SectionTag
  content : List Char

namespace Section

/-- How a section stands in a comment. -/
def source (sec : Section) : List Char :=
  sec.tag.start.toList ++ (sec.tag.label ++ (sec.content ++ sec.tag.closing.toList))

def IsWellFormed (sec : Section) : Prop :=
  sec.tag.IsWellFormed ∧ '<' ∉ sec.content

instance (sec : Section) : Decidable sec.IsWellFormed :=
  inferInstanceAs (Decidable (sec.tag.IsWellFormed ∧ '<' ∉ sec.content))

/-- A section with another content. -/
def mapContent (f : List Char → List Char) (sec : Section) : Section :=
  { sec with content := f sec.content }

end Section

/-- A text is made of sections, in order, with blanks around them. -/
inductive Consists : List Section → List Char → Prop
  | blank {gap : List Char} (hgap : allBlank gap = true) : Consists [] gap
  | cons {gap : List Char} {sec : Section} {secs : List Section} {rest : List Char}
      (hgap : allBlank gap = true) (hrest : Consists secs rest) :
      Consists (sec :: secs) (gap ++ (sec.source ++ rest))

/-! ### Marks -/

/-- What the tags of sections start with. -/
def sectionMarks : List (List Char) := ["<summary>".toList, "<remarks>".toList,
  "<returns>".toList, "<param name=\"".toList, "</summary>".toList, "</remarks>".toList,
  "</returns>".toList, "</param>".toList]

/-- A mark has one bracket at its start, and no other mark and no inline tag starts like it. -/
lemma sectionMarks_apart : ∀ mark ∈ sectionMarks, mark.head? = some '<' ∧ '<' ∉ mark.tail ∧
    (∀ other ∈ sectionMarks, other ≠ mark → ¬ other <+: mark ∧ ¬ mark <+: other) ∧
    ∀ opening ∈ tagOpenings, ¬ opening <+: mark ∧ ¬ mark <+: opening := by
  decide

/-- A mark starts nowhere in a text, whatever follows it. -/
def Avoids (mark s : List Char) : Prop := (Rule.literal mark []).Skips s

lemma ne_nil_of_mem_sectionMarks {mark : List Char} (h : mark ∈ sectionMarks) : mark ≠ [] := by
  rintro rfl
  cases (sectionMarks_apart [] h).1

lemma opensAt_of_mem_sectionMarks {mark : List Char} (h : mark ∈ sectionMarks) :
    (Rule.literal mark []).OpensAt '<' :=
  (Rule.opensWith_literal mark []).opensAt (sectionMarks_apart mark h).1

lemma avoids_of_notMem {mark s : List Char} (h : mark ∈ sectionMarks) (hs : '<' ∉ s) :
    Avoids mark s :=
  (opensAt_of_mem_sectionMarks h).skips hs

lemma avoids_other_mark {mark other : List Char} (hmark : mark ∈ sectionMarks)
    (hother : other ∈ sectionMarks) (hne : mark ≠ other) : Avoids mark other := by
  obtain ⟨-, htail, hapart, -⟩ := sectionMarks_apart other hother
  obtain ⟨hstart, hshort⟩ := hapart mark hmark hne
  exact (Rule.opensWith_literal mark []).skips (sectionMarks_apart mark hmark).1 htail hstart hshort

namespace SectionTag

lemma start_mem_sectionMarks (tag : SectionTag) : tag.start.toList ∈ sectionMarks := by
  cases tag <;> simp [start, sectionMarks]

lemma closing_mem_sectionMarks (tag : SectionTag) : tag.closing.toList ∈ sectionMarks := by
  cases tag <;> simp [closing, sectionMarks]

lemma start_ne_closing (tag tag' : SectionTag) : tag.start ≠ tag'.closing := by
  cases tag <;> cases tag' <;> simp [start, closing]

lemma start_eq_of_closing_eq {tag tag' : SectionTag} (h : tag.closing = tag'.closing) :
    tag.start = tag'.start := by
  cases tag <;> cases tag' <;> simp_all [start, closing]

lemma bracket_notMem_label {tag : SectionTag} (h : tag.IsWellFormed) : '<' ∉ tag.label := by
  cases tag with
  | param name => simp [label, h.2 '<' (by simp)]
  | _ => simp [label]

end SectionTag

lemma bracket_notMem_of_allBlank {gap : List Char} (h : allBlank gap = true) : '<' ∉ gap := by
  intro hmem
  exact absurd (List.all_eq_true.mp h '<' hmem) (by decide)

section Skips

variable {rule : Rule} (hrule : rule.OpensAt '<')

include hrule

lemma Section.skips_source {sec : Section} (hwf : sec.IsWellFormed)
    (hstart : rule.Skips sec.tag.start.toList) (hclosing : rule.Skips sec.tag.closing.toList) :
    rule.Skips sec.source :=
  hstart.append <| (hrule.skips (SectionTag.bracket_notMem_label hwf.1)).append <|
    (hrule.skips hwf.2).append hclosing

lemma Consists.skips {secs : List Section} {s : List Char} (h : Consists secs s)
    (hsecs : ∀ sec ∈ secs, rule.Skips sec.source) : rule.Skips s := by
  induction h with
  | blank hgap => exact hrule.skips (bracket_notMem_of_allBlank hgap)
  | cons hgap _ ih =>
    rw [List.forall_mem_cons] at hsecs
    exact (hrule.skips (bracket_notMem_of_allBlank hgap)).append (hsecs.1.append (ih hsecs.2))

end Skips

/-- The marks of a section are not in sections of another kind. -/
lemma Section.avoids_source {sec : Section} (hwf : sec.IsWellFormed) {tag : SectionTag}
    (hne : sec.tag.start ≠ tag.start) :
    Avoids tag.start.toList sec.source ∧ Avoids tag.closing.toList sec.source := by
  have hstart := tag.start_mem_sectionMarks
  have hclosing := tag.closing_mem_sectionMarks
  have hstart' := sec.tag.start_mem_sectionMarks
  have hclosing' := sec.tag.closing_mem_sectionMarks
  constructor
  · refine Section.skips_source (opensAt_of_mem_sectionMarks hstart) hwf
      (avoids_other_mark hstart hstart' ?_) (avoids_other_mark hstart hclosing' ?_)
    · exact fun heq => hne (String.toList_inj.mp heq).symm
    · exact fun heq => SectionTag.start_ne_closing _ _ (String.toList_inj.mp heq)
  · refine Section.skips_source (opensAt_of_mem_sectionMarks hclosing) hwf
      (avoids_other_mark hclosing hstart' ?_) (avoids_other_mark hclosing hclosing' ?_)
    · exact fun heq => SectionTag.start_ne_closing _ _ (String.toList_inj.mp heq).symm
    · exact fun heq => hne (SectionTag.start_eq_of_closing_eq (String.toList_inj.mp heq)).symm

lemma Consists.avoids {secs : List Section} {s : List Char} (h : Consists secs s)
    (hwf : ∀ sec ∈ secs, sec.IsWellFormed) {tag : SectionTag}
    (hne : ∀ sec ∈ secs, sec.tag.start ≠ tag.start) :
    Avoids tag.start.toList s ∧ Avoids tag.closing.toList s :=
  ⟨h.skips (opensAt_of_mem_sectionMarks tag.start_mem_sectionMarks)
      (fun sec hsec => (Section.avoids_source (hwf sec hsec) (hne sec hsec)).1),
    h.skips (opensAt_of_mem_sectionMarks tag.closing_mem_sectionMarks)
      (fun sec hsec => (Section.avoids_source (hwf sec hsec) (hne sec hsec)).2)⟩

/-! ### Sections of one kind -/

lemma Consists.exists_split {before after : List Section} {sec : Section} {s : List Char}
    (h : Consists (before ++ sec :: after) s) :
    ∃ front rest, s = front ++ (sec.source ++ rest) ∧
      Consists before front ∧ Consists after rest := by
  induction before generalizing s with
  | nil =>
    cases h with
    | cons hgap hrest => exact ⟨_, _, rfl, .blank hgap, hrest⟩
  | cons other before ih =>
    cases h with
    | cons hgap hrest =>
      obtain ⟨front, rest, rfl, hfront, hafter⟩ := ih hrest
      exact ⟨_, rest, by simp only [List.append_assoc], .cons hgap hfront, hafter⟩

/-- The content of the sections with a tag. -/
def contentOf (tag : SectionTag) (secs : List Section) : List Char :=
  (secs.filter (·.tag = tag)).flatMap Section.content

/-- A tag occurs at most once. -/
def AtMostOnce (tag : SectionTag) (secs : List Section) : Prop :=
  (secs.filter (·.tag = tag)).length ≤ 1

instance (tag : SectionTag) (secs : List Section) : Decidable (AtMostOnce tag secs) :=
  inferInstanceAs (Decidable (_ ≤ 1))

lemma AtMostOnce.cases {tag : SectionTag} {secs : List Section} (h : AtMostOnce tag secs) :
    (∀ sec ∈ secs, sec.tag ≠ tag) ∧ contentOf tag secs = [] ∨
    ∃ before sec after, secs = before ++ sec :: after ∧ sec.tag = tag ∧
      (∀ other ∈ before, other.tag ≠ tag) ∧ (∀ other ∈ after, other.tag ≠ tag) ∧
      contentOf tag secs = sec.content := by
  by_cases hex : ∃ sec ∈ secs, sec.tag = tag
  · obtain ⟨sec, hmem, htag⟩ := hex
    obtain ⟨before, after, rfl⟩ := List.append_of_mem hmem
    have hnone : (before.filter (·.tag = tag)).length = 0 ∧
        (after.filter (·.tag = tag)).length = 0 := by
      simp only [AtMostOnce, List.filter_append, List.length_append, List.filter_cons, htag,
        decide_true, if_true, List.length_cons] at h
      omega
    rw [List.length_eq_zero_iff, List.length_eq_zero_iff] at hnone
    refine .inr ⟨before, sec, after, rfl, htag, ?_, ?_, ?_⟩
    · simpa using List.filter_eq_nil_iff.mp hnone.1
    · simpa using List.filter_eq_nil_iff.mp hnone.2
    · simp [contentOf, hnone, htag]
  · have hnone : ∀ sec ∈ secs, sec.tag ≠ tag := fun sec hmem htag => hex ⟨sec, hmem, htag⟩
    refine .inl ⟨hnone, ?_⟩
    rw [contentOf, List.filter_eq_nil_iff.mpr (by simpa using hnone), List.flatMap_nil]

/-- Whether a tag is that of a parameter. -/
def SectionTag.isParam : SectionTag → Bool
  | param _ => true
  | _ => false

lemma SectionTag.start_ne_of_ne {tag tag' : SectionTag} (htag : tag.isParam = false)
    (h : tag' ≠ tag) : tag'.start ≠ tag.start := by
  cases tag <;> cases tag' <;> simp_all [start, isParam]

section Found

variable {tag : SectionTag} (htag : tag.isParam = false) {secs : List Section} {s : List Char}
  (h : Consists secs s) (hwf : ∀ sec ∈ secs, sec.IsWellFormed) (honce : AtMostOnce tag secs)

include htag h hwf honce

/-- A section is found where it stands, and its marks do not occur elsewhere. -/
lemma Consists.splitFirst?_start :
    (splitFirst? tag.start.toList s = none ∧ contentOf tag secs = []) ∨
    ∃ front rest, splitFirst? tag.start.toList s =
        some (front, contentOf tag secs ++ (tag.closing.toList ++ rest)) ∧
      '<' ∉ contentOf tag secs ∧ Avoids tag.closing.toList rest := by
  rcases honce.cases with ⟨hnone, htext⟩ | ⟨before, sec, after, rfl, rfl, hbefore, hafter, htext⟩
  · refine .inl ⟨?_, htext⟩
    have havoids := (h.avoids hwf
      (fun sec hsec => SectionTag.start_ne_of_ne htag (hnone sec hsec))).1
    rw [splitFirst?_eq_none_iff]
    exact havoids.not_isInfix (ne_nil_of_mem_sectionMarks tag.start_mem_sectionMarks)
  · rw [List.forall_mem_append, List.forall_mem_cons] at hwf
    obtain ⟨front, rest, rfl, hfront, hrest⟩ := h.exists_split
    have hlabel : sec.tag.label = [] := by
      cases htag' : sec.tag <;> simp_all [SectionTag.label, SectionTag.isParam]
    have havoids := (hfront.avoids hwf.1
      (fun other hother => SectionTag.start_ne_of_ne htag (hbefore other hother))).1
    refine .inr ⟨front, rest, ?_, ?_, ?_⟩
    · rw [Section.source, hlabel, htext, List.nil_append, List.append_assoc, List.append_assoc]
      exact splitFirst?_of_skips havoids _
    · rw [htext]
      exact hwf.2.1.2
    · exact (hrest.avoids hwf.2.2
        (fun other hother => SectionTag.start_ne_of_ne htag (hafter other hother))).2

/-- The search for the last closing tag finds that of the section, since there is no other one. -/
lemma Consists.outerSection_eq :
    outerSection tag.start.toList tag.closing.toList s = trim (contentOf tag secs) := by
  have hclosing := tag.closing_mem_sectionMarks
  rcases h.splitFirst?_start htag hwf honce with
    ⟨hnone, htext⟩ | ⟨front, rest, hsplit, hbracket, havoids⟩
  · rw [outerSection, hnone, htext]
    rfl
  · have htail : Avoids tag.closing.toList (tag.closing.toList.tail ++ rest) :=
      (avoids_of_notMem hclosing (sectionMarks_apart _ hclosing).2.1).append havoids
    have hlast := beforeLast?_of_skips (ne_nil_of_mem_sectionMarks hclosing)
      (avoids_of_notMem hclosing hbracket) htail
    rw [outerSection, hsplit]
    simp only [hlast, Option.getD_some]

lemma Consists.innerSection_eq :
    innerSection tag.start.toList tag.closing.toList s = trim (contentOf tag secs) := by
  rcases h.splitFirst?_start htag hwf honce with
    ⟨hnone, htext⟩ | ⟨front, rest, hsplit, hbracket, -⟩
  · rw [innerSection, hnone, htext]
    rfl
  · have hfirst := splitFirst?_of_skips
      (avoids_of_notMem tag.closing_mem_sectionMarks hbracket) rest
    rw [innerSection, hsplit]
    simp only [hfirst, Option.map_some, Option.getD_some]

end Found

/-! ### Parameters -/

/-- The name and the content of a parameter section. -/
def Section.parameter? (sec : Section) : Option (List Char × List Char) :=
  match sec.tag with
  | .param name => some (name, sec.content)
  | _ => none

lemma eq_of_parameterSection? {s name description rest : List Char}
    (h : parameterSection? s = some ((name, description), rest)) :
    s = "<param name=\"".toList ++ (name ++ ("\">".toList ++
      (description ++ ("</param>".toList ++ rest)))) := by
  simp only [parameterSection?, bind, Option.bind_eq_some_iff, Option.ite_none_left_eq_some,
    Prod.exists, pure, Option.some.injEq, Prod.mk.injEq] at h
  obtain ⟨t, hopening, -, u, hquote, description', rest', hsplit, ⟨hname, rfl⟩, rfl⟩ := h
  have ht : t = name ++ ("\">".toList ++ u) := by
    rw [← dropPrefix?_eq_some_iff.mp hquote, ← hname, List.takeWhile_append_dropWhile]
  rw [dropPrefix?_eq_some_iff.mp hopening, ht, eq_of_splitFirst? hsplit, List.append_assoc]

lemma length_lt_of_parameterSection? {s rest : List Char} {found : List Char × List Char}
    (h : parameterSection? s = some (found, rest)) : rest.length < s.length := by
  have hmark : "</param>".toList.length = 8 := rfl
  rw [eq_of_parameterSection? h]
  simp only [List.length_append, hmark]
  omega

/-- More steps than characters find no more sections. -/
lemma parameterSectionsFuel_eq {fuel : Nat} {s : List Char} (h : s.length ≤ fuel) :
    parameterSectionsFuel fuel s = parameterSections s := by
  rw [parameterSections]
  induction hlength : s.length using Nat.strong_induction_on generalizing fuel s with
  | _ n ih =>
    subst hlength
    cases s with
    | nil => cases fuel <;> rfl
    | cons c s =>
      cases fuel with
      | zero => cases h
      | succ fuel =>
        rw [List.length_cons] at h ih
        rw [parameterSectionsFuel, List.length_cons, parameterSectionsFuel]
        split
        · rename_i found rest hfound
          have hlt := length_lt_of_parameterSection? hfound
          rw [List.length_cons] at hlt
          rw [ih _ hlt (by omega) rfl, ih _ hlt (Nat.le_of_lt_succ hlt) rfl]
        · rw [ih _ (Nat.lt_succ_self _) (by omega) rfl]

lemma parameterSections_of_some {s rest : List Char} {found : List Char × List Char}
    (h : parameterSection? s = some (found, rest)) :
    parameterSections s = found :: parameterSections rest := by
  have hlt := length_lt_of_parameterSection? h
  cases s with
  | nil => cases hlt
  | cons c s =>
    rw [List.length_cons] at hlt
    rw [parameterSections, List.length_cons, parameterSectionsFuel, h,
      ← parameterSectionsFuel_eq (Nat.le_of_lt_succ hlt)]

lemma parameterSections_append_of_avoids {s : List Char} (h : Avoids "<param name=\"".toList s)
    (t : List Char) : parameterSections (s ++ t) = parameterSections t := by
  induction s with
  | nil => rfl
  | cons c s ih =>
    have hnone : parameterSection? (c :: (s ++ t)) = none := by
      rw [parameterSection?, Rule.dropPrefix?_of_skips h]
      rfl
    rw [List.cons_append, parameterSections, List.length_cons, parameterSectionsFuel, hnone]
    exact ih (Rule.skips_cons.mp h).2

lemma parameterSection?_source {name content : List Char} (hname : name ≠ [])
    (hquote : '"' ∉ name) (hcontent : '<' ∉ content) (rest : List Char) :
    parameterSection? ((Section.mk (.param name) content).source ++ rest) =
      some ((name, content), rest) := by
  have hsource : (Section.mk (.param name) content).source ++ rest = "<param name=\"".toList ++
      (name ++ '"' :: '>' :: (content ++ ("</param>".toList ++ rest))) := by
    simp [Section.source, SectionTag.start, SectionTag.label, SectionTag.closing]
  have hend : dropPrefix? "\">".toList ('"' :: '>' :: (content ++ ("</param>".toList ++ rest))) =
      some (content ++ ("</param>".toList ++ rest)) := dropPrefix?_eq_some_iff.mpr rfl
  have hclosing := splitFirst?_of_skips
    (avoids_of_notMem (by simp [sectionMarks] : "</param>".toList ∈ sectionMarks) hcontent) rest
  rw [parameterSection?, hsource, dropPrefix?_eq_some_iff.mpr rfl]
  simp only [bind, Option.bind_some, takeWhile_append_cons hquote, dropWhile_append_cons hquote,
    List.isEmpty_eq_false_iff.mpr hname, hend, hclosing, pure, if_neg Bool.false_ne_true]

lemma Consists.parameterSections_eq {secs : List Section} {s : List Char} (h : Consists secs s)
    (hwf : ∀ sec ∈ secs, sec.IsWellFormed) :
    parameterSections s = secs.filterMap Section.parameter? := by
  have hmark : "<param name=\"".toList ∈ sectionMarks := by simp [sectionMarks]
  induction h with
  | blank hgap =>
    have hnone := parameterSections_append_of_avoids
      (avoids_of_notMem hmark (bracket_notMem_of_allBlank hgap)) []
    rw [List.append_nil] at hnone
    exact hnone
  | @cons gap sec secs rest hgap _ ih =>
    rw [List.forall_mem_cons] at hwf
    have hgapAvoids := avoids_of_notMem hmark (bracket_notMem_of_allBlank hgap)
    rw [parameterSections_append_of_avoids hgapAvoids]
    obtain ⟨tag, content⟩ := sec
    cases tag with
    | param name =>
      obtain ⟨⟨hname, htext⟩, hcontent⟩ := hwf.1
      have hfound := parameterSection?_source hname (htext '"' (by simp)) hcontent rest
      rw [parameterSections_of_some hfound, ih hwf.2]
      rfl
    | _ =>
      have havoids := (Section.avoids_source hwf.1
        (by simp [SectionTag.start] : _ ≠ (SectionTag.param []).start)).1
      rw [parameterSections_append_of_avoids havoids, ih hwf.2]
      rfl

/-! ### Sections on one line -/

lemma SectionTag.notMem_of_isWellFormed {tag : SectionTag} (h : tag.IsWellFormed) {c : Char}
    (hc : c = '\n' ∨ c = '\r') :
    c ∉ tag.start.toList ∧ c ∉ tag.label ∧ c ∉ tag.closing.toList := by
  rcases hc with rfl | rfl <;>
  cases tag with
  | param name => simp [start, label, closing, h.2 _]
  | _ => simp [start, label, closing]

lemma head?_mark_append {mark : List Char} (h : mark ∈ sectionMarks) (t : List Char) :
    (mark ++ t).head? ≠ some ' ' := by
  rw [List.head?_append, (sectionMarks_apart mark h).1]
  simp

/-- The pass for line breaks puts the content of each section on one line. -/
lemma Consists.substitute_lineBreakRule {secs : List Section} {s : List Char} (h : Consists secs s)
    (hwf : ∀ sec ∈ secs, sec.IsWellFormed) :
    Consists (secs.map (Section.mapContent onOneLine))
      (substitute lineBreakRule (s.filter (· != '\r'))) := by
  induction h with
  | @blank gap hgap =>
    have hline : substitute lineBreakRule (gap.filter (· != '\r') ++ []) = onOneLine gap ++ [] :=
      substitute_lineBreakRule_onOneLine gap (by simp)
    rw [List.append_nil, List.append_nil] at hline
    rw [hline]
    exact .blank (allBlank_onOneLine hgap)
  | @cons gap sec secs rest hgap _ ih =>
    rw [List.forall_mem_cons] at hwf
    obtain ⟨hstart, hlabel, hclosing⟩ := SectionTag.notMem_of_isWellFormed hwf.1.1 (.inl rfl)
    obtain ⟨hstart', hlabel', hclosing'⟩ := SectionTag.notMem_of_isWellFormed hwf.1.1 (.inr rfl)
    have hskip {t : List Char} (ht : '\n' ∉ t) := Rule.substitute_append_of_skips
      (opensAt_lineBreakRule.skips ht)
    have hsource : substitute lineBreakRule ((gap ++ (sec.source ++ rest)).filter (· != '\r')) =
        onOneLine gap ++ ((sec.mapContent onOneLine).source ++
          substitute lineBreakRule (rest.filter (· != '\r'))) := by
      simp only [Section.source, Section.mapContent, List.filter_append,
        filter_of_return_notMem hstart', filter_of_return_notMem hlabel',
        filter_of_return_notMem hclosing', List.append_assoc]
      rw [substitute_lineBreakRule_onOneLine _ (head?_mark_append sec.tag.start_mem_sectionMarks _),
        hskip hstart, hskip hlabel,
        substitute_lineBreakRule_onOneLine _ (head?_mark_append sec.tag.closing_mem_sectionMarks _),
        hskip hclosing]
    rw [hsource]
    exact .cons (allBlank_onOneLine hgap) (ih hwf.2)

lemma Section.skips_source_of_mem_tagRules {ns : List Char} {rule : Rule}
    (hrule : rule ∈ tagRules ns) {sec : Section} (hwf : sec.IsWellFormed) :
    rule.Skips sec.source := by
  have hmark {mark : List Char} (h : mark ∈ sectionMarks) : rule.Skips mark := by
    obtain ⟨-, htail, -, hapart⟩ := sectionMarks_apart mark h
    exact skips_mark_of_mem_tagRules hrule htail hapart
  exact Section.skips_source (opensAt_of_mem_tagRules hrule) hwf
    (hmark sec.tag.start_mem_sectionMarks) (hmark sec.tag.closing_mem_sectionMarks)

lemma forall_isWellFormed_lined {secs : List Section} (hwf : ∀ sec ∈ secs, sec.IsWellFormed) :
    ∀ sec ∈ secs.map (Section.mapContent onOneLine), sec.IsWellFormed := by
  intro sec hsec
  obtain ⟨sec', hmem, rfl⟩ := List.mem_map.mp hsec
  refine ⟨(hwf sec' hmem).1, fun hbracket => (hwf sec' hmem).2 ?_⟩
  exact mem_of_mem_onOneLine (by decide) hbracket

/-- A comment of sections is put on one line section by section. -/
lemma Consists.flatten {secs : List Section} {comment : String} (h : Consists secs comment.toList)
    (hwf : ∀ sec ∈ secs, sec.IsWellFormed) (ns : String) :
    Consists (secs.map (Section.mapContent onOneLine)) (flatten ns comment) := by
  have hlined := h.substitute_lineBreakRule hwf
  have hskips : ∀ rule ∈ tagRules ns.toList,
      rule.Skips (substitute lineBreakRule (comment.toList.filter (· != '\r'))) := by
    intro rule hrule
    refine hlined.skips (opensAt_of_mem_tagRules hrule) (fun sec hsec => ?_)
    exact Section.skips_source_of_mem_tagRules hrule (forall_isWellFormed_lined hwf sec hsec)
  rw [flatten_eq, substituteAll_of_skips hskips]
  exact hlined

end DataContract.Java
