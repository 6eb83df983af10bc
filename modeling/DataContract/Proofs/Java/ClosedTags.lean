/-
What the rules make of a whole tag.

An attribute without a quote ends at the end of its tag, whatever follows the tag.
So a reference to a member is read exactly if its target is a type and a member,
perhaps with the namespace in front, provided that the namespace has no quote: one
with a quote could reach over the end of the tag.  Any other target is kept without
the namespace.
-/
import DataContract.Proofs.Java.InlineTags
import DataContract.Proofs.Text.Lowercase
import DataContract.Proofs.Text.Range
import Mathlib.Data.List.TakeWhile

namespace DataContract.Java

open DataContract.Text

/-! ### Closed tags -/

/-- The end of a tag after an attribute, perhaps with a space in it. -/
def tagClosing (gap : Bool) : List Char :=
  '"' :: (if gap then " />".toList else "/>".toList)

lemma exists_quote_of_tagEnd? {s rest : List Char} (h : tagEnd? s = some rest) :
    ∃ tail, s = '"' :: tail := by
  unfold tagEnd? at h
  split at h
  · exact ⟨_, rfl⟩
  · exact ⟨_, rfl⟩
  · cases h

lemma tagEnd?_closing (gap : Bool) (rest : List Char) :
    tagEnd? (tagClosing gap ++ rest) = some rest := by
  cases gap
  · rfl
  · rfl

section Closed

variable {s : List Char} (hs : '"' ∉ s) (gap : Bool) (rest : List Char)

include hs

lemma takeWhile_closing : (s ++ (tagClosing gap ++ rest)).takeWhile (· != '"') = s :=
  takeWhile_append_cons hs _

lemma dropWhile_closing :
    (s ++ (tagClosing gap ++ rest)).dropWhile (· != '"') = tagClosing gap ++ rest :=
  dropWhile_append_cons hs _

lemma codeAttributeRule_closing (opening : List Char) (hne : s ≠ []) :
    codeAttributeRule opening (opening ++ (s ++ (tagClosing gap ++ rest))) =
      some (inlineTag "code".toList s, rest) := by
  have hopening := dropPrefix?_eq_some_iff.mpr
    (rfl : opening ++ (s ++ (tagClosing gap ++ rest)) = _)
  have hempty : s.isEmpty = false := List.isEmpty_eq_false_iff.mpr hne
  simp only [codeAttributeRule, hopening, bind, Option.bind_some, takeWhile_closing hs,
    dropWhile_closing hs, hempty, tagEnd?_closing, pure, if_neg Bool.false_ne_true]

lemma typeTarget?_closing (hne : s ≠ []) :
    typeTarget? (s ++ (tagClosing gap ++ rest)) = some (inlineTag "link".toList s, rest) := by
  have hempty : s.isEmpty = false := List.isEmpty_eq_false_iff.mpr hne
  simp only [typeTarget?, bind, Option.bind_some, takeWhile_closing hs, dropWhile_closing hs,
    hempty, tagEnd?_closing, pure, if_neg Bool.false_ne_true]

end Closed

lemma typeTarget?_closing_nil (gap : Bool) (rest : List Char) :
    typeTarget? (tagClosing gap ++ rest) = none := by
  have htarget := takeWhile_closing (s := []) (by simp) gap rest
  rw [List.nil_append] at htarget
  simp [typeTarget?, htarget]

/-- A name of word characters. -/
def IsWordRun (s : List Char) : Prop := s ≠ [] ∧ ∀ c ∈ s, isWord c = true

lemma wordRun?_eq_some_iff {s word rest : List Char} :
    wordRun? s = some (word, rest) ↔
      IsWordRun word ∧ s = word ++ rest ∧ ∀ c ∈ rest.head?, isWord c = false := by
  constructor
  · intro h
    have hs := eq_of_wordRun? h
    rw [wordRun?] at h
    split at h
    · cases h
    · rename_i hne
      cases h
      refine ⟨⟨fun hnil => hne (List.isEmpty_iff.mpr hnil), fun c hc => ?_⟩, hs, fun c hc => ?_⟩
      · exact List.mem_takeWhile_imp hc
      · have hhead := List.head?_dropWhile_not isWord s
        rw [Option.mem_def.mp hc] at hhead
        simpa using hhead
  · rintro ⟨⟨hne, hword⟩, rfl, hrest⟩
    have hstop : rest.takeWhile isWord = [] ∧ rest.dropWhile isWord = rest := by
      cases rest with
      | nil => exact ⟨rfl, rfl⟩
      | cons c rest =>
        have hc : ¬ isWord c = true := Bool.eq_false_iff.mp (hrest c rfl)
        exact ⟨List.takeWhile_cons_of_neg hc, List.dropWhile_cons_of_neg hc⟩
    rw [wordRun?, List.takeWhile_append_of_pos hword, List.dropWhile_append_of_pos hword, hstop.1,
      hstop.2, List.append_nil, List.isEmpty_eq_false_iff.mpr hne]
    rfl

lemma isWordRun_of_ascii {s : List Char} (hne : s ≠ [])
    (h : s.all (fun c => c.toNat < 0x80 && isAsciiWord c) = true) : IsWordRun s := by
  refine ⟨hne, fun c hc => ?_⟩
  have hascii := List.all_eq_true.mp h c hc
  rw [Bool.and_eq_true, decide_eq_true_eq] at hascii
  rw [isWord_of_lt hascii.1]
  exact hascii.2

lemma IsWordRun.notMem {s : List Char} (h : IsWordRun s) {c : Char} (hc : isWord c = false) :
    c ∉ s := by
  intro hmem
  rw [h.2 c hmem] at hc
  exact Bool.noConfusion hc

/-- The link to a member of a type. -/
def memberLink (type member : List Char) : List Char :=
  inlineTag "link".toList (type ++ '#' :: (identifier (String.ofList member)).toList)

lemma notMem_identifier {c : Char} (hc : c.toNat < 0x61) {name : List Char} (h : c ∉ name) :
    c ∉ (identifier (String.ofList name)).toList := by
  rw [identifier, String.toList_ofList]
  cases name with
  | nil => simp
  | cons d name =>
    rw [List.mem_cons, not_or] at h
    rw [String.toList_ofList, List.mem_append, not_or]
    refine ⟨fun hmem => ?_, h.2⟩
    rcases lower_eq_self_or_le d with hself | hlower
    · rw [hself, List.mem_singleton] at hmem
      exact h.1 hmem
    · have hle := hlower c hmem
      omega

lemma notMem_inlineTag {name content : List Char} (hname : '<' ∉ name) (hcontent : '<' ∉ content) :
    '<' ∉ inlineTag name content := by
  simp [inlineTag, hname, hcontent]

lemma notMem_memberLink {type member : List Char} (htype : IsWordRun type)
    (hmember : IsWordRun member) : '<' ∉ memberLink type member := by
  have hbracket : isWord '<' = false := isWord_of_lt (by decide)
  have hname := notMem_identifier (by decide) (hmember.notMem hbracket)
  exact notMem_inlineTag (by simp) (by simp [htype.notMem hbracket, hname])

/-- A member is read exactly if the target is a type, a point and a member. -/
lemma memberTarget?_closing_iff {s : List Char} (hs : '"' ∉ s) (gap : Bool) (rest : List Char)
    {hit : List Char × List Char} :
    memberTarget? (s ++ (tagClosing gap ++ rest)) = some hit ↔
      ∃ type member, IsWordRun type ∧ IsWordRun member ∧ s = type ++ '.' :: member ∧
        hit = (memberLink type member, rest) := by
  have hquote : isWord '"' = false := isWord_of_lt (by decide)
  have hpoint : isWord '.' = false := isWord_of_lt (by decide)
  simp only [memberTarget?, bind, Option.bind_eq_some_iff, Prod.exists, pure, Option.some.injEq,
    wordRun?_eq_some_iff, dropPrefix?_eq_some_iff]
  constructor
  · rintro ⟨type, s₁, ⟨htype, htext, -⟩, s₂, rfl, member, s₃, ⟨hmember, rfl, -⟩, s₄, hend, rfl⟩
    -- The target reaches to the first quote, and so does the text that was read.
    have hread : '"' ∉ type ++ '.' :: member := by
      simp [htype.notMem hquote, hmember.notMem hquote]
    obtain ⟨tail, rfl⟩ := exists_quote_of_tagEnd? hend
    have hsame : s ++ '"' :: ((if gap then " />".toList else "/>".toList) ++ rest) =
        (type ++ '.' :: member) ++ '"' :: tail := by
      rw [List.append_assoc]
      exact htext
    obtain ⟨htarget, hrest⟩ := eq_of_append_cons_eq hs hread hsame
    rw [← hrest] at hend
    have hclosing := tagEnd?_closing gap rest
    rw [tagClosing, List.cons_append, hend] at hclosing
    cases hclosing
    exact ⟨type, member, htype, hmember, htarget, by simp [memberLink]⟩
  · rintro ⟨type, member, htype, hmember, rfl, rfl⟩
    refine ⟨type, '.' :: (member ++ (tagClosing gap ++ rest)), ⟨htype, by simp, ?_⟩, _, rfl,
      member, tagClosing gap ++ rest, ⟨hmember, rfl, ?_⟩, rest, tagEnd?_closing gap rest, ?_⟩
    · simpa using hpoint
    · simpa [tagClosing] using hquote
    · simp [memberLink]

/-- A start without a quote is cut off the target, never more. -/
lemma dropPrefix?_closing {own : List Char} (hown : '"' ∉ own) (s : List Char) (gap : Bool)
    (rest : List Char) :
    dropPrefix? own (s ++ (tagClosing gap ++ rest)) =
      (dropPrefix? own s).map (· ++ (tagClosing gap ++ rest)) := by
  induction own generalizing s with
  | nil => simp [dropPrefix?]
  | cons o own ih =>
    simp only [List.mem_cons, not_or] at hown
    cases s with
    | nil => simp [dropPrefix?, tagClosing, Ne.symm hown.1]
    | cons c s =>
      by_cases hc : o = c
      · simpa [dropPrefix?, hc] using ih hown.2 s
      · simp [dropPrefix?, hc]

/-- A target that is a member of a type, perhaps with the namespace in front. -/
structure NamesMember (ns target type member : List Char) : Prop where
  type_run : IsWordRun type
  member_run : IsWordRun member
  eq : target = type ++ '.' :: member ∨ target = ns ++ '.' :: (type ++ '.' :: member)

/-- A type and a member have one point between them. -/
lemma count_point {type member : List Char} (htype : IsWordRun type) (hmember : IsWordRun member) :
    (type ++ '.' :: member).count '.' = 1 := by
  have hpoint : isWord '.' = false := isWord_of_lt (by decide)
  rw [List.count_append, List.count_cons_self, List.count_eq_zero.mpr (htype.notMem hpoint),
    List.count_eq_zero.mpr (hmember.notMem hpoint)]

section Namespace

variable {ns target : List Char} (hns : '"' ∉ ns) (htarget : '"' ∉ target) (gap : Bool)
  (rest : List Char)

include hns htarget

lemma memberTarget?_behind_iff {hit : List Char × List Char} :
    (dropPrefix? (ns ++ ['.']) (target ++ (tagClosing gap ++ rest))).bind memberTarget? = some hit ↔
      ∃ type member, IsWordRun type ∧ IsWordRun member ∧
        target = ns ++ '.' :: (type ++ '.' :: member) ∧ hit = (memberLink type member, rest) := by
  have hown : '"' ∉ ns ++ ['.'] := by simp [hns]
  rw [dropPrefix?_closing hown]
  simp only [Option.bind_eq_some_iff, Option.map_eq_some_iff, dropPrefix?_eq_some_iff]
  constructor
  · rintro ⟨_, ⟨inner, rfl, rfl⟩, hread⟩
    have hquote : '"' ∉ inner := fun hmem => htarget (List.mem_append_right _ hmem)
    obtain ⟨type, member, htype, hmember, rfl, rfl⟩ :=
      (memberTarget?_closing_iff hquote gap rest).mp hread
    exact ⟨type, member, htype, hmember, by simp, rfl⟩
  · rintro ⟨type, member, htype, hmember, rfl, rfl⟩
    have hquote : '"' ∉ type ++ '.' :: member :=
      fun hmem => htarget (List.mem_append_right _ (List.mem_cons_of_mem _ hmem))
    refine ⟨_, ⟨type ++ '.' :: member, by simp, rfl⟩, ?_⟩
    exact (memberTarget?_closing_iff hquote gap rest).mpr ⟨type, member, htype, hmember, rfl, rfl⟩

lemma withoutOwn_memberTarget?_iff {hit : List Char × List Char} :
    withoutOwn (ns ++ ['.']) memberTarget? (target ++ (tagClosing gap ++ rest)) = some hit ↔
      ∃ type member, NamesMember ns target type member ∧ hit = (memberLink type member, rest) := by
  rw [withoutOwn, Option.or_eq_some_iff, memberTarget?_behind_iff hns htarget,
    memberTarget?_closing_iff htarget]
  constructor
  · rintro (⟨type, member, htype, hmember, heq, rfl⟩ | ⟨-, type, member, htype, hmember, heq, rfl⟩)
    · exact ⟨type, member, ⟨htype, hmember, .inr heq⟩, rfl⟩
    · exact ⟨type, member, ⟨htype, hmember, .inl heq⟩, rfl⟩
  · rintro ⟨type, member, ⟨htype, hmember, heq | heq⟩, rfl⟩
    · -- Behind the namespace there is no member, since that would take a second point.
      refine .inr ⟨?_, type, member, htype, hmember, heq, rfl⟩
      rw [Option.eq_none_iff_forall_ne_some]
      intro hit hhit
      obtain ⟨type', member', htype', hmember', heq', -⟩ :=
        (memberTarget?_behind_iff hns htarget gap rest).mp hhit
      have hone := count_point htype hmember
      have htwo := count_point htype' hmember'
      rw [← heq, heq', List.count_append, List.count_cons_self, htwo] at hone
      omega
    · exact .inl ⟨type, member, htype, hmember, heq, rfl⟩

/-- A reference is read as one to a member exactly if its kind has members and its target names
one. -/
lemma memberRule_closing_iff (kind : Char) {hit : List Char × List Char} :
    memberRule ns ("<see cref=\"".toList ++ kind :: ':' :: (target ++ (tagClosing gap ++ rest))) =
        some hit ↔
      kind ∈ ['P', 'F', 'M', 'E'] ∧
        ∃ type member, NamesMember ns target type member ∧
          hit = (memberLink type member, rest) := by
  have hopening := dropPrefix?_eq_some_iff.mpr (rfl : "<see cref=\"".toList ++
    kind :: ':' :: (target ++ (tagClosing gap ++ rest)) = _)
  simp only [memberRule, hopening, bind, Option.bind_some, Option.ite_none_right_eq_some,
    List.contains_iff_mem, withoutOwn_memberTarget?_iff hns htarget]

end Namespace

/-- A target without the namespace at its start, if something is left. -/
def withoutNamespace (ns target : List Char) : List Char :=
  match dropPrefix? (ns ++ ['.']) target with
  | some (c :: rest) => c :: rest
  | _ => target

lemma withoutNamespace_suffix (ns target : List Char) : withoutNamespace ns target <:+ target := by
  unfold withoutNamespace
  split
  · rename_i hbehind
    rw [dropPrefix?_eq_some_iff.mp hbehind]
    exact List.suffix_append _ _
  · exact List.suffix_refl target

lemma typeRule_closing {ns target : List Char} (hns : '"' ∉ ns) (htarget : '"' ∉ target)
    (hne : target ≠ []) {kind : Char} (hkind : kind ≠ '\n') (gap : Bool) (rest : List Char) :
    typeRule ns ("<see cref=\"".toList ++ kind :: ':' :: (target ++ (tagClosing gap ++ rest))) =
      some (inlineTag "link".toList (withoutNamespace ns target), rest) := by
  have hopening := dropPrefix?_eq_some_iff.mpr (rfl : "<see cref=\"".toList ++
    kind :: ':' :: (target ++ (tagClosing gap ++ rest)) = _)
  have hown : '"' ∉ ns ++ ['.'] := by simp [hns]
  have hwhole := typeTarget?_closing htarget gap rest hne
  simp only [typeRule, hopening, bind, Option.bind_some, beq_iff_eq, if_neg hkind, withoutOwn,
    dropPrefix?_closing hown, hwhole, withoutNamespace]
  cases hbehind : dropPrefix? (ns ++ ['.']) target with
  | none => rfl
  | some inner =>
    cases inner with
    | nil => simp [typeTarget?_closing_nil]
    | cons c inner =>
      have hquote : '"' ∉ c :: inner := by
        rw [dropPrefix?_eq_some_iff.mp hbehind] at htarget
        exact fun hmem => htarget (List.mem_append_right _ hmem)
      have hread := typeTarget?_closing hquote gap rest (List.cons_ne_nil c inner)
      simp only [Option.map_some, Option.bind_some, hread, Option.some_or]

/-- Code reaches to the first closing tag. -/
lemma codeRule_closing {s : List Char} (hs : '<' ∉ s) (rest : List Char) :
    codeRule ("<c>".toList ++ (s ++ ("</c>".toList ++ rest))) =
      some (inlineTag "code".toList s, rest) := by
  have hopening := dropPrefix?_eq_some_iff.mpr
    (rfl : "<c>".toList ++ (s ++ ("</c>".toList ++ rest)) = _)
  have hskips : (Rule.literal "</c>".toList []).Skips s :=
    ((Rule.opensWith_literal "</c>".toList []).opensAt (by simp)).skips hs
  simp only [codeRule, hopening, bind, Option.bind_some, splitFirst?_of_skips hskips, pure]

end DataContract.Java
