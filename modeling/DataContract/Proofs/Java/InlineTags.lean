/-
What the rules for inline tags read and write.

Every rule takes a tag apart into what it keeps and the marks around it, and
what it writes is a tag of Javadoc with what was kept.  It matches only where its
opening stands, and leaves less text than it was given.
-/
import DataContract.Java.Javadoc
import DataContract.Proofs.Text.Passes

namespace DataContract.Java

open DataContract.Text

lemma exists_of_tagEnd? {s rest : List Char} (h : tagEnd? s = some rest) :
    ∃ mark, s = mark ++ rest := by
  unfold tagEnd? at h
  split at h
  · cases h
    exact ⟨['"', ' ', '/', '>'], rfl⟩
  · cases h
    exact ⟨['"', '/', '>'], rfl⟩
  · cases h

lemma eq_of_wordRun? {s word rest : List Char} (h : wordRun? s = some (word, rest)) :
    s = word ++ rest := by
  rw [wordRun?] at h
  split at h
  · cases h
  · cases h
    exact List.takeWhile_append_dropWhile.symm

/-- A member is written with its name in lower case after the type. -/
lemma exists_of_memberTarget? {s new rest : List Char} (h : memberTarget? s = some (new, rest)) :
    ∃ type member mark, s = type ++ '.' :: (member ++ (mark ++ rest)) ∧
      new = inlineTag "link".toList
        (type ++ '#' :: (identifier (String.ofList member)).toList) := by
  simp only [memberTarget?, bind, Option.bind_eq_some_iff, Prod.exists, pure, Option.some.injEq,
    Prod.mk.injEq] at h
  obtain ⟨type, s₁, htype, s₂, hpoint, member, s₃, hmember, s₄, hend, hnew, rfl⟩ := h
  obtain ⟨mark, rfl⟩ := exists_of_tagEnd? hend
  refine ⟨type, member, mark, ?_, by rw [← hnew, List.append_assoc]; rfl⟩
  rw [eq_of_wordRun? htype, dropPrefix?_eq_some_iff.mp hpoint, eq_of_wordRun? hmember]
  rfl

/-- Up to a quote: what stands before it is kept, and the end of the tag follows. -/
lemma exists_of_quoted {s target rest : List Char} (htarget : s.takeWhile (· != '"') = target)
    (h : tagEnd? (s.dropWhile (· != '"')) = some rest) :
    ∃ mark, s = target ++ (mark ++ rest) := by
  obtain ⟨mark, hmark⟩ := exists_of_tagEnd? h
  exact ⟨mark, by rw [← hmark, ← htarget, List.takeWhile_append_dropWhile]⟩

lemma exists_of_typeTarget? {s new rest : List Char} (h : typeTarget? s = some (new, rest)) :
    ∃ target mark, s = target ++ (mark ++ rest) ∧ new = inlineTag "link".toList target := by
  simp only [typeTarget?, Option.ite_none_left_eq_some, bind, Option.bind_eq_some_iff, pure,
    Option.some.injEq, Prod.mk.injEq] at h
  obtain ⟨-, rest', hend, hnew, rfl⟩ := h
  obtain ⟨mark, hs⟩ := exists_of_quoted rfl hend
  exact ⟨_, mark, hs, hnew.symm⟩

lemma exists_of_withoutOwn {own s : List Char} {target? : Rule} {hit : List Char × List Char}
    (h : withoutOwn own target? s = some hit) :
    ∃ front t, s = front ++ t ∧ target? t = some hit := by
  rw [withoutOwn, Option.or_eq_some_iff] at h
  rcases h with h | ⟨-, h⟩
  · obtain ⟨t, hown, ht⟩ := Option.bind_eq_some_iff.mp h
    exact ⟨own, t, dropPrefix?_eq_some_iff.mp hown, ht⟩
  · exact ⟨[], s, rfl, h⟩

/-- The target of a reference stands after the marks in front of it. -/
lemma exists_of_reference {own s rest : List Char} {kind : Char} {target? : Rule}
    {hit : List Char × List Char}
    (hopening : dropPrefix? "<see cref=\"".toList s = some (kind :: ':' :: rest))
    (h : withoutOwn own target? rest = some hit) :
    ∃ front t, s = front ++ t ∧ target? t = some hit := by
  obtain ⟨front, t, rfl, ht⟩ := exists_of_withoutOwn h
  refine ⟨"<see cref=\"".toList ++ kind :: ':' :: front, t, ?_, ht⟩
  rw [dropPrefix?_eq_some_iff.mp hopening]
  simp

lemma exists_of_memberRule {ns s : List Char} {hit : List Char × List Char}
    (h : memberRule ns s = some hit) : ∃ front t, s = front ++ t ∧ memberTarget? t = some hit := by
  simp only [memberRule, bind, Option.bind_eq_some_iff] at h
  obtain ⟨t, hopening, h⟩ := h
  split at h
  · rw [Option.ite_none_right_eq_some] at h
    exact exists_of_reference hopening h.2
  · cases h

lemma exists_of_typeRule {ns s : List Char} {hit : List Char × List Char}
    (h : typeRule ns s = some hit) : ∃ front t, s = front ++ t ∧ typeTarget? t = some hit := by
  simp only [typeRule, bind, Option.bind_eq_some_iff] at h
  obtain ⟨t, hopening, h⟩ := h
  split at h
  · rw [Option.ite_none_left_eq_some] at h
    exact exists_of_reference hopening h.2
  · cases h

lemma exists_of_codeAttributeRule {opening s new rest : List Char}
    (h : codeAttributeRule opening s = some (new, rest)) :
    ∃ code mark, s = opening ++ (code ++ (mark ++ rest)) ∧ new = inlineTag "code".toList code := by
  simp only [codeAttributeRule, bind, Option.bind_eq_some_iff, Option.ite_none_left_eq_some, pure,
    Option.some.injEq, Prod.mk.injEq] at h
  obtain ⟨t, hopening, -, rest', hend, hnew, rfl⟩ := h
  obtain ⟨mark, ht⟩ := exists_of_quoted rfl hend
  exact ⟨_, mark, by rw [dropPrefix?_eq_some_iff.mp hopening, ← ht], hnew.symm⟩

lemma exists_of_codeRule {s new rest : List Char} (h : codeRule s = some (new, rest)) :
    ∃ code, s = "<c>".toList ++ (code ++ ("</c>".toList ++ rest)) ∧
      new = inlineTag "code".toList code := by
  simp only [codeRule, bind, Option.bind_eq_some_iff, Prod.exists, pure, Option.some.injEq,
    Prod.mk.injEq] at h
  obtain ⟨t, hopening, code, rest', hsplit, hnew, rfl⟩ := h
  refine ⟨code, ?_, hnew.symm⟩
  rw [dropPrefix?_eq_some_iff.mp hopening, eq_of_splitFirst? hsplit, List.append_assoc]

/-- What is written in a tag: no bracket, no quote and no line break. -/
def IsTagText (s : List Char) : Prop := ∀ c ∈ ['<', '"', '\n', '\r'], c ∉ s

instance (s : List Char) : Decidable (IsTagText s) :=
  List.decidableBAll (· ∉ s) ['<', '"', '\n', '\r']

/-! ### Rules leave less text -/

lemma length_lt_of_tagEnd? {s rest : List Char} (h : tagEnd? s = some rest) :
    rest.length < s.length := by
  unfold tagEnd? at h
  split at h
  · cases h
    simp only [List.length_cons]
    omega
  · cases h
    simp only [List.length_cons]
    omega
  · cases h

lemma consumes_memberRule (ns : List Char) : (memberRule ns).Consumes := by
  intro s r rest h
  obtain ⟨front, t, rfl, htarget⟩ := exists_of_memberRule h
  obtain ⟨type, member, mark, rfl, -⟩ := exists_of_memberTarget? htarget
  simp only [List.length_append, List.length_cons]
  omega

/-- What is left behind the end of an attribute is shorter than the text. -/
lemma length_lt_of_quoted {s rest : List Char}
    (h : tagEnd? (s.dropWhile (· != '"')) = some rest) : rest.length < s.length :=
  Nat.lt_of_lt_of_le (length_lt_of_tagEnd? h) (List.dropWhile_suffix _).length_le

lemma consumes_typeRule (ns : List Char) : (typeRule ns).Consumes := by
  intro s r rest h
  obtain ⟨front, t, rfl, htarget⟩ := exists_of_typeRule h
  simp only [typeTarget?, Option.ite_none_left_eq_some, bind, Option.bind_eq_some_iff, pure,
    Option.some.injEq, Prod.mk.injEq] at htarget
  obtain ⟨-, rest', hend, -, rfl⟩ := htarget
  have hlt := length_lt_of_quoted hend
  rw [List.length_append]
  omega

lemma consumes_codeAttributeRule (opening : List Char) : (codeAttributeRule opening).Consumes := by
  intro s r rest h
  simp only [codeAttributeRule, bind, Option.bind_eq_some_iff, Option.ite_none_left_eq_some, pure,
    Option.some.injEq, Prod.mk.injEq] at h
  obtain ⟨t, hopening, -, rest', hend, -, rfl⟩ := h
  have hlt := length_lt_of_quoted hend
  rw [dropPrefix?_eq_some_iff.mp hopening, List.length_append]
  omega

lemma consumes_codeRule : codeRule.Consumes := by
  intro s r rest h
  obtain ⟨code, rfl, -⟩ := exists_of_codeRule h
  have hmark : "<c>".toList.length = 3 := rfl
  simp only [List.length_append, hmark]
  omega

/-! ### Openings -/

lemma opensWith_of_dropPrefix? {opening : List Char} {rule : Rule}
    (h : ∀ s, dropPrefix? opening s = none → rule s = none) : rule.OpensWith opening :=
  fun s hs => h s (dropPrefix?_eq_none_iff.mpr hs)

lemma opensWith_memberRule (ns : List Char) : (memberRule ns).OpensWith "<see cref=\"".toList :=
  opensWith_of_dropPrefix? (fun s hs => by rw [memberRule, hs]; rfl)

lemma opensWith_typeRule (ns : List Char) : (typeRule ns).OpensWith "<see cref=\"".toList :=
  opensWith_of_dropPrefix? (fun s hs => by rw [typeRule, hs]; rfl)

lemma opensWith_codeAttributeRule (opening : List Char) :
    (codeAttributeRule opening).OpensWith opening :=
  opensWith_of_dropPrefix? (fun s hs => by rw [codeAttributeRule, hs]; rfl)

lemma opensWith_codeRule : codeRule.OpensWith "<c>".toList :=
  opensWith_of_dropPrefix? (fun s hs => by rw [codeRule, hs]; rfl)

/-- The rules for tags, without the one for line breaks. -/
def tagRules (ns : List Char) : List Rule := (inlineRules ns).tail

lemma flatten_eq (ns comment : String) :
    flatten ns comment = substituteAll (tagRules ns.toList)
      (substitute lineBreakRule (comment.toList.filter (· != '\r'))) := by
  have hrules : inlineRules ns.toList = lineBreakRule :: tagRules ns.toList := by
    rw [tagRules, inlineRules, List.tail_cons]
  rw [flatten, hrules, List.foldl_cons, substituteAll]

lemma consumes_of_mem_tagRules {ns : List Char} {rule : Rule} (h : rule ∈ tagRules ns) :
    rule.Consumes := by
  simp only [tagRules, inlineRules, List.tail_cons, List.mem_cons, List.not_mem_nil, or_false] at h
  rcases h with rfl | rfl | rfl | rfl | rfl | rfl
  · exact consumes_memberRule ns
  · exact consumes_typeRule ns
  · exact consumes_codeAttributeRule _
  · exact consumes_codeAttributeRule _
  · exact consumes_codeAttributeRule _
  · exact consumes_codeRule

/-- What the tags start with that the rules for tags look for, rule by rule. -/
def tagOpenings : List (List Char) := ["<see cref=\"".toList, "<see cref=\"".toList,
  "<see langword=\"".toList, "<paramref name=\"".toList, "<typeparamref name=\"".toList,
  "<c>".toList]

lemma opensWith_tagRules (ns : List Char) : List.Forall₂ Rule.OpensWith tagOpenings (tagRules ns) :=
  .cons (opensWith_memberRule ns) <| .cons (opensWith_typeRule ns) <|
    .cons (opensWith_codeAttributeRule _) <| .cons (opensWith_codeAttributeRule _) <|
    .cons (opensWith_codeAttributeRule _) <| .cons opensWith_codeRule .nil

/-- A tag has one bracket at its start, and no opening of another tag. -/
lemma tagOpenings_apart : ∀ mark ∈ tagOpenings, mark.head? = some '<' ∧ '<' ∉ mark.tail ∧
    ∀ opening ∈ tagOpenings, opening ≠ mark → ¬ opening <+: mark ∧ ¬ mark <+: opening := by
  decide

lemma opensAt_of_mem_tagRules {ns : List Char} {rule : Rule} (h : rule ∈ tagRules ns) :
    rule.OpensAt '<' := by
  obtain ⟨opening, hmem, hopens⟩ := Rule.exists_opensWith_of_mem (opensWith_tagRules ns) h
  exact hopens.opensAt (tagOpenings_apart opening hmem).1

/-- Text without an opening bracket passes all rules for tags. -/
lemma skips_of_mem_tagRules {ns : List Char} {rule : Rule} (h : rule ∈ tagRules ns)
    {s : List Char} (hs : '<' ∉ s) : rule.Skips s :=
  (opensAt_of_mem_tagRules h).skips hs

/-- A mark that differs from all openings passes all rules for tags. -/
lemma skips_mark_of_mem_tagRules {ns : List Char} {rule : Rule} (h : rule ∈ tagRules ns)
    {mark : List Char} (hmark : '<' ∉ mark.tail)
    (hapart : ∀ opening ∈ tagOpenings, ¬ opening <+: mark ∧ ¬ mark <+: opening) :
    rule.Skips mark := by
  obtain ⟨opening, hmem, hopens⟩ := Rule.exists_opensWith_of_mem (opensWith_tagRules ns) h
  obtain ⟨hopening, hshort⟩ := hapart opening hmem
  exact hopens.skips (tagOpenings_apart opening hmem).1 hmark hopening hshort

/-- A tag that a rule takes becomes what the rule writes, if its opening is none that an earlier
rule looks for, and no rule looks for anything behind the opening or in what was written. -/
lemma becomes_tag {ns : List Char} {k : Nat} {rule : Rule} (hrule : (tagRules ns)[k]? = some rule)
    {mark s image : List Char} (hmark : mark ∈ tagOpenings) (hfirst : mark ∉ tagOpenings.take k)
    (hs : ∀ other ∈ tagRules ns, other.Skips s) (himage : '<' ∉ image)
    (htakes : ∀ rest, rule (mark ++ (s ++ rest)) = some (image, rest)) :
    Becomes (tagRules ns) (mark ++ s) image := by
  obtain ⟨hk, hget⟩ := List.getElem?_eq_some_iff.mp hrule
  obtain ⟨-, htail, hapart⟩ := tagOpenings_apart mark hmark
  have hsplit : tagRules ns = (tagRules ns).take k ++ rule :: (tagRules ns).drop (k + 1) := by
    rw [← hget, ← List.drop_eq_getElem_cons hk, List.take_append_drop]
  rw [hsplit]
  refine becomes_of_take (fun earlier hearlier => ?_) (fun rest => ?_) (fun later hlater => ?_)
  · obtain ⟨opening, hmem, hopens⟩ :=
      Rule.exists_opensWith_of_mem (List.forall₂_take k (opensWith_tagRules ns)) hearlier
    have hne : opening ≠ mark := fun heq => hfirst (heq ▸ hmem)
    obtain ⟨hopening, hshort⟩ := hapart opening (List.mem_of_mem_take hmem) hne
    have hhead := (tagOpenings_apart opening (List.mem_of_mem_take hmem)).1
    have hbody := hs earlier (List.mem_of_mem_take hearlier)
    exact (hopens.skips hhead htail hopening hshort).append hbody
  · rw [List.append_assoc]
    exact htakes rest
  · exact skips_of_mem_tagRules (List.mem_of_mem_drop hlater) himage

end DataContract.Java
