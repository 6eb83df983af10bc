/-
A comment is rewritten segment by segment.

A comment of plain text and whole inline tags has an image for each of its segments,
and on one line it is the images in their order.  The passes of the rules agree with
this since each rule takes a tag of its own form as a whole, skips the tags of all
others, and finds no tag in what an earlier rule wrote.
-/
import DataContract.Proofs.Java.ClosedTags
import DataContract.Proofs.Java.JoinedLines

namespace DataContract.Java

open DataContract.Text

/-! ### Segments -/

/-- The tags whose attribute is code. -/
inductive CodeAttribute
  | langword
  | paramref
  | typeparamref

def CodeAttribute.opening : CodeAttribute → String
  | langword => "<see langword=\""
  | paramref => "<paramref name=\""
  | typeparamref => "<typeparamref name=\""

/-- A part of a comment: plain text, or an inline tag, whose end may have a space in it. -/
inductive Segment
  | plain (text : List Char)
  | reference (kind : Char) (target : List Char) (gap : Bool)
  | quoted (tag : CodeAttribute) (code : List Char) (gap : Bool)
  | span (content : List Char)

namespace Segment

/-- How a segment stands in a comment. -/
def source : Segment → List Char
  | plain text => text
  | reference kind target gap => "<see cref=\"".toList ++ kind :: ':' :: (target ++ tagClosing gap)
  | quoted tag code gap => tag.opening.toList ++ (code ++ tagClosing gap)
  | span content => "<c>".toList ++ (content ++ "</c>".toList)

@[simp] lemma source_plain (text : List Char) : (plain text).source = text := rfl

@[simp] lemma source_reference (kind : Char) (target : List Char) (gap : Bool) :
    (reference kind target gap).source =
      "<see cref=\"".toList ++ kind :: ':' :: (target ++ tagClosing gap) := rfl

@[simp] lemma source_quoted (tag : CodeAttribute) (code : List Char) (gap : Bool) :
    (quoted tag code gap).source = tag.opening.toList ++ (code ++ tagClosing gap) := rfl

@[simp] lemma source_span (content : List Char) :
    (span content).source = "<c>".toList ++ (content ++ "</c>".toList) := rfl

def isPlain : Segment → Bool
  | plain _ => true
  | _ => false

/-- Of two segments that stand side by side, one is a tag. -/
def NotBothPlain (a b : Segment) : Prop := a.isPlain = false ∨ b.isPlain = false

def IsWellFormed : Segment → Prop
  | plain text => '<' ∉ text
  | reference kind target _ => kind.isAlpha = true ∧ target ≠ [] ∧ IsTagText target
  | quoted _ code _ => code ≠ [] ∧ IsTagText code
  | span content => IsTagText content

instance : DecidablePred IsWellFormed
  | plain text => inferInstanceAs (Decidable ('<' ∉ text))
  | reference kind target _ =>
    inferInstanceAs (Decidable (kind.isAlpha = true ∧ target ≠ [] ∧ IsTagText target))
  | quoted _ code _ => inferInstanceAs (Decidable (code ≠ [] ∧ IsTagText code))
  | span content => inferInstanceAs (Decidable (IsTagText content))

/-- The image of a segment.  A reference is one to a member if its kind has members and its target
names one, and otherwise one to its target. -/
inductive Shows (ns : List Char) : Segment → List Char → Prop
  | plain (text : List Char) : Shows ns (plain text) (onOneLine text)
  | member {kind : Char} {target type member : List Char} {gap : Bool}
      (hkind : kind ∈ ['P', 'F', 'M', 'E']) (htarget : NamesMember ns target type member) :
      Shows ns (reference kind target gap) (memberLink type member)
  | target {kind : Char} {target : List Char} {gap : Bool}
      (h : kind ∈ ['P', 'F', 'M', 'E'] → ∀ type member, ¬ NamesMember ns target type member) :
      Shows ns (reference kind target gap) (inlineTag "link".toList (withoutNamespace ns target))
  | quoted (tag : CodeAttribute) (code : List Char) (gap : Bool) :
      Shows ns (quoted tag code gap) (inlineTag "code".toList code)
  | span (content : List Char) : Shows ns (span content) (inlineTag "code".toList content)

lemma exists_shows (ns : List Char) (segment : Segment) : ∃ image, Shows ns segment image := by
  cases segment with
  | plain text => exact ⟨_, .plain text⟩
  | quoted tag code gap => exact ⟨_, .quoted tag code gap⟩
  | span content => exact ⟨_, .span content⟩
  | reference kind target gap =>
    by_cases h : kind ∈ ['P', 'F', 'M', 'E'] ∧ ∃ type member, NamesMember ns target type member
    · obtain ⟨hkind, type, member, htarget⟩ := h
      exact ⟨_, .member hkind htarget⟩
    · refine ⟨_, .target (fun hkind type member htarget => h ⟨hkind, type, member, htarget⟩)⟩

/-! ### Line breaks -/

/-- A segment after the pass for line breaks. -/
def lined : Segment → List Char
  | plain text => onOneLine text
  | segment => segment.source

lemma lined_of_not_plain {segment : Segment} (h : segment.isPlain = false) :
    segment.lined = segment.source := by
  cases segment with
  | plain text => cases h
  | reference kind target gap => rfl
  | quoted tag code gap => rfl
  | span content => rfl

lemma head?_source_of_not_plain {segment : Segment} (h : segment.isPlain = false) :
    segment.source.head? = some '<' := by
  cases segment with
  | plain text => cases h
  | reference kind target gap => simp
  | quoted tag code gap => cases tag <;> simp [CodeAttribute.opening]
  | span content => simp

/-- A tag has no line breaks. -/
lemma notMem_source_of_not_plain {segment : Segment} (hwf : segment.IsWellFormed)
    (h : segment.isPlain = false) {c : Char} (hc : c = '\n' ∨ c = '\r') : c ∉ segment.source := by
  have hclosing (gap : Bool) : c ∉ tagClosing gap := by
    rcases hc with rfl | rfl <;> cases gap <;> simp [tagClosing]
  have htext {s : List Char} (hs : IsTagText s) : c ∉ s := by
    rcases hc with rfl | rfl <;> exact hs _ (by simp)
  cases segment with
  | plain text => cases h
  | reference kind target gap =>
    obtain ⟨hkind, -, htarget⟩ := hwf
    have hne : c ≠ kind := by
      rintro rfl
      rcases hc with rfl | rfl <;> exact absurd hkind (by decide)
    rcases hc with rfl | rfl <;> simp [hne, htext htarget, hclosing]
  | quoted tag code gap =>
    have hopening : c ∉ tag.opening.toList := by
      rcases hc with rfl | rfl <;> cases tag <;> simp [CodeAttribute.opening]
    simp [hopening, htext hwf.2, hclosing]
  | span content => rcases hc with rfl | rfl <;> simp [htext hwf]

/-- What follows plain text does not start with a space. -/
lemma head?_of_isChain {text : List Char} {segments : List Segment}
    (h : (plain text :: segments).IsChain NotBothPlain) :
    ((segments.flatMap source).filter (· != '\r')).head? ≠ some ' ' := by
  cases segments with
  | nil => simp
  | cons next segments =>
    have hnext : next.isPlain = false :=
      (List.isChain_cons_cons.mp h).1.resolve_left (by simp [isPlain])
    obtain ⟨tail, htail⟩ := List.head?_eq_some_iff.mp (head?_source_of_not_plain hnext)
    simp [htail]

/-- The pass for line breaks puts each segment on one line by itself. -/
lemma substitute_lineBreakRule_segments {segments : List Segment}
    (hwf : ∀ segment ∈ segments, segment.IsWellFormed) (hchain : segments.IsChain NotBothPlain) :
    substitute lineBreakRule ((segments.flatMap source).filter (· != '\r')) =
      segments.flatMap lined := by
  induction segments with
  | nil => rfl
  | cons segment segments ih =>
    rw [List.forall_mem_cons] at hwf
    specialize ih hwf.2 hchain.tail
    rw [List.flatMap_cons, List.filter_append, List.flatMap_cons]
    by_cases hplain : segment.isPlain = false
    · have hreturn := notMem_source_of_not_plain hwf.1 hplain (.inr rfl)
      have hfeed := notMem_source_of_not_plain hwf.1 hplain (.inl rfl)
      rw [filter_of_return_notMem hreturn,
        Rule.substitute_append_of_skips (opensAt_lineBreakRule.skips hfeed), ih,
        lined_of_not_plain hplain]
    · cases segment with
      | plain text =>
        rw [source_plain, substitute_lineBreakRule_onOneLine _ (head?_of_isChain hchain), ih]
        rfl
      | _ => exact absurd rfl hplain

/-! ### Tags -/

lemma becomes_quoted (ns : List Char) (tag : CodeAttribute) {code : List Char} (hne : code ≠ [])
    (hcode : IsTagText code) (gap : Bool) :
    Becomes (tagRules ns) (quoted tag code gap).source (inlineTag "code".toList code) := by
  have himage : '<' ∉ inlineTag "code".toList code :=
    notMem_inlineTag (by simp) (hcode '<' (by simp))
  have hbody : '<' ∉ code ++ tagClosing gap := by
    cases gap <;> simp [tagClosing, hcode '<' (by simp)]
  have hskips : ∀ other ∈ tagRules ns, other.Skips (code ++ tagClosing gap) :=
    fun other hother => skips_of_mem_tagRules hother hbody
  have htakes (rest : List Char) : codeAttributeRule tag.opening.toList
      (tag.opening.toList ++ (code ++ tagClosing gap ++ rest)) =
        some (inlineTag "code".toList code, rest) := by
    rw [List.append_assoc]
    exact codeAttributeRule_closing (hcode '"' (by simp)) gap rest _ hne
  -- The places of the rules among all: what matters is only that no earlier one has this opening.
  cases tag with
  | langword => exact becomes_tag (k := 2) rfl (by decide) (by decide) hskips himage htakes
  | paramref => exact becomes_tag (k := 3) rfl (by decide) (by decide) hskips himage htakes
  | typeparamref => exact becomes_tag (k := 4) rfl (by decide) (by decide) hskips himage htakes

lemma becomes_span (ns : List Char) {content : List Char} (h : IsTagText content) :
    Becomes (tagRules ns) (span content).source (inlineTag "code".toList content) := by
  have himage : '<' ∉ inlineTag "code".toList content :=
    notMem_inlineTag (by simp) (h '<' (by simp))
  have hskips : ∀ other ∈ tagRules ns, other.Skips (content ++ "</c>".toList) := by
    intro other hother
    have hclosing : other.Skips "</c>".toList :=
      skips_mark_of_mem_tagRules hother (by decide) (by decide)
    exact (skips_of_mem_tagRules hother (h '<' (by simp))).append hclosing
  have htakes (rest : List Char) : codeRule ("<c>".toList ++ (content ++ "</c>".toList ++ rest)) =
      some (inlineTag "code".toList content, rest) := by
    rw [List.append_assoc]
    exact codeRule_closing (h '<' (by simp)) rest
  exact becomes_tag (k := 5) rfl (by decide) (by decide) hskips himage htakes

lemma bracket_notMem_reference {target : List Char} {kind : Char} {gap : Bool}
    (h : (reference kind target gap).IsWellFormed) :
    '<' ∉ kind :: ':' :: (target ++ tagClosing gap) := by
  obtain ⟨hkind, -, htarget⟩ := h
  have hne : '<' ≠ kind := by
    rintro rfl
    exact absurd hkind (by decide)
  cases gap <;> simp [hne, tagClosing, htarget '<' (by simp)]

lemma source_reference_append (kind : Char) (target : List Char) (gap : Bool) (rest : List Char) :
    (reference kind target gap).source ++ rest =
      "<see cref=\"".toList ++ kind :: ':' :: (target ++ (tagClosing gap ++ rest)) := by
  simp [List.append_assoc]

section Reference

variable {ns target : List Char} {kind : Char} (hns : '"' ∉ ns) (gap : Bool)

include hns

lemma becomes_reference_member {type member : List Char}
    (hwf : (reference kind target gap).IsWellFormed) (hkind : kind ∈ ['P', 'F', 'M', 'E'])
    (h : NamesMember ns target type member) :
    Becomes (tagRules ns) (reference kind target gap).source (memberLink type member) := by
  have htarget := hwf.2.2 '"' (by simp)
  have hbody := bracket_notMem_reference hwf
  refine becomes_tag (k := 0) rfl (by decide) (by decide)
    (fun other hother => skips_of_mem_tagRules hother hbody)
    (notMem_memberLink h.type_run h.member_run) (fun rest => ?_)
  rw [List.cons_append, List.cons_append, List.append_assoc]
  exact (memberRule_closing_iff hns htarget gap rest kind).mpr ⟨hkind, type, member, h, rfl⟩

lemma skips_reference_of_memberRule (hwf : (reference kind target gap).IsWellFormed)
    (h : kind ∈ ['P', 'F', 'M', 'E'] → ∀ type member, ¬ NamesMember ns target type member) :
    (memberRule ns).Skips (reference kind target gap).source := by
  have hopens : (memberRule ns).OpensAt '<' := (opensWith_memberRule ns).opensAt (by simp)
  have htail : '<' ∉ (reference kind target gap).source.tail := by
    simpa using bracket_notMem_reference hwf
  -- The rule looks for this opening too, so only the target tells that it does not match.
  refine hopens.skips_of_tail htail (fun rest => ?_)
  rw [source_reference_append, Option.eq_none_iff_forall_ne_some]
  intro hit hhit
  obtain ⟨hkind, type, member, hnames, -⟩ :=
    (memberRule_closing_iff hns (hwf.2.2 '"' (by simp)) gap rest kind).mp hhit
  exact h hkind type member hnames

lemma becomes_reference_target (hwf : (reference kind target gap).IsWellFormed)
    (h : kind ∈ ['P', 'F', 'M', 'E'] → ∀ type member, ¬ NamesMember ns target type member) :
    Becomes (tagRules ns) (reference kind target gap).source
      (inlineTag "link".toList (withoutNamespace ns target)) := by
  have hkind : kind ≠ '\n' := by
    rintro rfl
    exact absurd hwf.1 (by decide)
  have himage : '<' ∉ inlineTag "link".toList (withoutNamespace ns target) :=
    notMem_inlineTag (by simp)
      (fun hmem => hwf.2.2 '<' (by simp) ((withoutNamespace_suffix ns target).mem hmem))
  have hrules : tagRules ns = [memberRule ns] ++ typeRule ns :: (tagRules ns).drop 2 := rfl
  rw [hrules]
  refine becomes_of_take (fun earlier hearlier => ?_) (fun rest => ?_) (fun later hlater => ?_)
  · rw [List.mem_singleton.mp hearlier]
    exact skips_reference_of_memberRule hns gap hwf h
  · rw [source_reference_append]
    exact typeRule_closing hns (hwf.2.2 '"' (by simp)) hwf.2.1 hkind gap rest
  · exact skips_of_mem_tagRules (List.mem_of_mem_drop hlater) himage

end Reference

/-- The rules for tags make of each segment its image. -/
lemma becomes_lined {ns : List Char} (hns : '"' ∉ ns) {segment : Segment} {image : List Char}
    (hwf : segment.IsWellFormed) (h : segment.Shows ns image) :
    Becomes (tagRules ns) segment.lined image := by
  cases h with
  | plain text =>
    refine becomes_self (fun rule hrule => skips_of_mem_tagRules hrule (fun hmem => ?_))
    exact hwf (mem_of_mem_onOneLine (by decide) hmem)
  | member hkind htarget => exact becomes_reference_member hns _ hwf hkind htarget
  | target h => exact becomes_reference_target hns _ hwf h
  | quoted tag code gap => exact becomes_quoted ns tag hwf.1 hwf.2 gap
  | span content => exact becomes_span ns hwf

/-- A comment on one line is the images of its segments. -/
lemma flatten_of_shows {ns : String} (hns : '"' ∉ ns.toList) {segments : List Segment}
    (hwf : ∀ segment ∈ segments, segment.IsWellFormed)
    (hchain : segments.IsChain NotBothPlain)
    {images : List (List Char)} (h : List.Forall₂ (Shows ns.toList) segments images) :
    flatten ns (String.ofList (segments.flatMap source)) = images.flatten := by
  have hbecomes : List.Forall₂ (Becomes (tagRules ns.toList)) (segments.map lined) images := by
    clear hchain
    induction h with
    | nil => exact .nil
    | cons hshows _ ih =>
      rw [List.forall_mem_cons] at hwf
      exact .cons (becomes_lined hns hwf.1 hshows) (ih hwf.2)
  have hpass := substituteAll_flatten (fun rule hrule => consumes_of_mem_tagRules hrule) hbecomes
  rw [flatten_eq, String.toList_ofList, substitute_lineBreakRule_segments hwf hchain,
    List.flatMap_def, hpass]

lemma exists_forall₂_shows (ns : List Char) (segments : List Segment) :
    ∃ images, List.Forall₂ (Shows ns) segments images := by
  induction segments with
  | nil => exact ⟨[], .nil⟩
  | cons segment segments ih =>
    obtain ⟨image, himage⟩ := exists_shows ns segment
    obtain ⟨images, himages⟩ := ih
    exact ⟨image :: images, .cons himage himages⟩

end Segment

/-- A comment of plain text and inline tags becomes, on one line, the images of its segments in
their order.  The namespace has no quote, so it cannot reach from one tag into the next. -/
theorem flatten_segments_iff {ns : String} (hns : '"' ∉ ns.toList) {segments : List Segment}
    (hwf : ∀ segment ∈ segments, segment.IsWellFormed)
    (hchain : segments.IsChain Segment.NotBothPlain)
    (out : List Char) :
    flatten ns (String.ofList (segments.flatMap Segment.source)) = out ↔
      ∃ images, List.Forall₂ (Segment.Shows ns.toList) segments images ∧ images.flatten = out := by
  constructor
  · rintro rfl
    obtain ⟨images, himages⟩ := Segment.exists_forall₂_shows ns.toList segments
    exact ⟨images, himages, (Segment.flatten_of_shows hns hwf hchain himages).symm⟩
  · rintro ⟨images, himages, rfl⟩
    exact Segment.flatten_of_shows hns hwf hchain himages

theorem flatten_segments_neighbours :
    let segments := [Segment.plain "Of\r\n  ".toList, .reference 'P' "N.T.Id".toList false,
      .reference 'T' "N.T".toList true, .quoted .paramref "n".toList false, .span []]
    '"' ∉ "N".toList ∧ (∀ segment ∈ segments, segment.IsWellFormed) ∧
      segments.IsChain Segment.NotBothPlain ∧
      flatten "N" (String.ofList (segments.flatMap Segment.source)) =
        "Of \x7b@link T#id\x7d\x7b@link T\x7d\x7b@code n\x7d\x7b@code \x7d".toList := by
  have hmember : NamesMember "N".toList "N.T.Id".toList "T".toList "Id".toList :=
    ⟨isWordRun_of_ascii (by decide) (by decide), isWordRun_of_ascii (by decide) (by decide),
      .inr (by decide)⟩
  refine ⟨by decide, by decide, by simp [Segment.NotBothPlain, Segment.isPlain], ?_⟩
  refine (flatten_segments_iff (by decide) (by decide)
    (by simp [Segment.NotBothPlain, Segment.isPlain]) _).mpr
    ⟨_, .cons (.plain _) (.cons (.member (by decide) hmember) (.cons (.target (by simp))
      (.cons (.quoted _ _ _) (.cons (.span _) .nil)))), ?_⟩
  decide

/-- With a quote in it, a namespace can reach over the end of a tag and into the next one. -/
theorem flatten_segments_quote : ¬ ∀ (ns : String) (segments : List Segment),
    (∀ segment ∈ segments, segment.IsWellFormed) →
    segments.IsChain Segment.NotBothPlain → ∀ out : List Char,
    (flatten ns (String.ofList (segments.flatMap Segment.source)) = out ↔
      ∃ images, List.Forall₂ (Segment.Shows ns.toList) segments images ∧ images.flatten = out) := by
  intro h
  have hresult := (h "A\"/><see cref=\"T:B" [.reference 'T' "A".toList false,
    .reference 'T' "B.C".toList false] (by decide)
    (by simp [Segment.NotBothPlain, Segment.isPlain]) _).mpr
    ⟨["\x7b@link A\x7d".toList, "\x7b@link B.C\x7d".toList],
      .cons (.target (by simp)) (.cons (.target (by simp)) .nil), rfl⟩
  revert hresult
  decide

end DataContract.Java
