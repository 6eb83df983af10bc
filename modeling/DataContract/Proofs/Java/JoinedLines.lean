/-
A comment on one line.

Every line but the first loses the spaces at its start and is put behind one space.
This is what the rule for line breaks does, also to a part of a comment, if what
follows the part does not start with a space.
-/
import DataContract.Java.Javadoc
import DataContract.Proofs.Text.Passes
import DataContract.Proofs.Text.Words

namespace DataContract.Java

open DataContract.Text

/-- The lines of a text on one line, with a space in place of each line feed and the spaces after
it. -/
def joined (s : List Char) : List Char :=
  match pieces '\n' s with
  | [] => []
  | first :: more => first ++ more.flatMap (fun line => ' ' :: line.dropWhile (· == ' '))

/-- A text on one line, without its carriage returns. -/
def onOneLine (s : List Char) : List Char :=
  joined (s.filter (· != '\r'))

lemma filter_of_return_notMem {s : List Char} (h : '\r' ∉ s) : s.filter (· != '\r') = s := by
  refine List.filter_eq_self.mpr (fun c hc => ?_)
  rw [bne_iff_ne]
  rintro rfl
  exact h hc

lemma joined_of_notMem {s : List Char} (h : '\n' ∉ s) : joined s = s := by
  rw [joined, pieces_of_notMem h]
  exact List.append_nil s

lemma exists_pieces_dropWhile (s : List Char) :
    ∃ first more, pieces '\n' s = first :: more ∧
      pieces '\n' (s.dropWhile (· == ' ')) = first.dropWhile (· == ' ') :: more := by
  induction s with
  | nil => exact ⟨[], [], rfl, rfl⟩
  | cons c s ih =>
    by_cases hspace : c = ' '
    · obtain ⟨first, more, hpieces, hdropped⟩ := ih
      refine ⟨c :: first, more, ?_, ?_⟩
      · simp [pieces, hspace, hpieces]
      · simpa [hspace] using hdropped
    · have hkept : (c :: s).dropWhile (· == ' ') = c :: s :=
        List.dropWhile_cons_of_neg (by simpa using hspace)
      rw [hkept]
      by_cases hfeed : c = '\n'
      · exact ⟨[], pieces '\n' s, by simp [pieces, hfeed], by simp [pieces, hfeed]⟩
      · obtain ⟨piece, more, -, hcons⟩ := pieces_cons_of_ne hfeed s
        exact ⟨c :: piece, more, hcons, by rw [hcons]; simp [hspace]⟩

/-- A line feed and the spaces after it are one space. -/
lemma joined_append_lineFeed {s : List Char} (h : '\n' ∉ s) (t : List Char) :
    joined (s ++ '\n' :: t) = s ++ ' ' :: joined (t.dropWhile (· == ' ')) := by
  obtain ⟨first, more, hpieces, hdropped⟩ := exists_pieces_dropWhile t
  simp only [joined, pieces_append h, hpieces, hdropped, List.flatMap_cons, List.cons_append]

/-- What holds of every line, and of a text if it holds of what follows its first line feed and the
spaces after it, holds of every text. -/
lemma lineInduction {motive : List Char → Prop} (line : ∀ s, '\n' ∉ s → motive s)
    (feed : ∀ s t, '\n' ∉ s → motive (t.dropWhile (· == ' ')) → motive (s ++ '\n' :: t))
    (s : List Char) : motive s := by
  induction hn : s.length using Nat.strong_induction_on generalizing s with
  | _ n ih =>
    by_cases hfeed : '\n' ∈ s
    · obtain ⟨a, t, rfl, ha⟩ := List.eq_append_cons_of_mem hfeed
      refine feed a t ha (ih _ ?_ _ rfl)
      have hle := (List.dropWhile_suffix (l := t) (· == ' ')).length_le
      rw [← hn, List.length_append, List.length_cons]
      omega
    · exact line s hfeed

/-- Besides the characters of a text there are only spaces. -/
lemma mem_of_mem_joined {c : Char} (hc : c ≠ ' ') {s : List Char} (h : c ∈ joined s) : c ∈ s := by
  induction s using lineInduction with
  | line s hs => rwa [joined_of_notMem hs] at h
  | feed s t hs ih =>
    rw [joined_append_lineFeed hs, List.mem_append, List.mem_cons] at h
    rw [List.mem_append, List.mem_cons]
    rcases h with h | h | h
    · exact .inl h
    · exact absurd h hc
    · exact .inr (.inr ((List.dropWhile_suffix _).mem (ih h)))

lemma mem_of_mem_onOneLine {c : Char} (hc : c ≠ ' ') {s : List Char} (h : c ∈ onOneLine s) :
    c ∈ s :=
  List.mem_of_mem_filter (mem_of_mem_joined hc h)

lemma allBlank_onOneLine {s : List Char} (h : allBlank s = true) :
    allBlank (onOneLine s) = true := by
  rw [allBlank, List.all_eq_true] at h ⊢
  intro c hc
  by_cases hspace : c = ' '
  · exact isBlank_of_eq_space c (beq_iff_eq.mpr hspace)
  · exact h c (mem_of_mem_onOneLine hspace hc)

lemma consumes_lineBreakRule : lineBreakRule.Consumes := by
  intro s r rest h
  unfold lineBreakRule at h
  split at h
  · cases h
    exact Nat.lt_succ_of_le (List.dropWhile_suffix _).length_le
  · cases h

lemma opensAt_lineBreakRule : lineBreakRule.OpensAt '\n' := by
  intro c s hc
  unfold lineBreakRule
  split
  · rename_i heq
    cases heq
    exact absurd rfl hc
  · rfl

/-- A part of a text is put on one line by itself if no space follows it. -/
lemma substitute_lineBreakRule_append (s : List Char) {rest : List Char}
    (hrest : rest.head? ≠ some ' ') :
    substitute lineBreakRule (s ++ rest) = joined s ++ substitute lineBreakRule rest := by
  induction s using lineInduction with
  | line s hs =>
    rw [joined_of_notMem hs, Rule.substitute_append_of_skips (opensAt_lineBreakRule.skips hs)]
  | feed s t hs ih =>
    have hspaces : (t ++ rest).dropWhile (· == ' ') = t.dropWhile (· == ' ') ++ rest := by
      rw [List.dropWhile_append]
      split
      · rename_i hempty
        have hkept : rest.dropWhile (· == ' ') = rest := by
          cases rest with
          | nil => rfl
          | cons c rest => exact List.dropWhile_cons_of_neg (by simpa using hrest)
        rw [hkept, List.isEmpty_iff.mp hempty, List.nil_append]
      · rfl
    have hmatch : lineBreakRule ('\n' :: (t ++ rest)) =
        some ([' '], t.dropWhile (· == ' ') ++ rest) := by
      rw [lineBreakRule, hspaces]
    rw [List.append_assoc, List.cons_append,
      Rule.substitute_append_of_skips (opensAt_lineBreakRule.skips hs),
      Rule.substitute_of_some consumes_lineBreakRule hmatch, ih, joined_append_lineFeed hs]
    simp

lemma substitute_lineBreakRule_onOneLine (s : List Char) {rest : List Char}
    (hrest : rest.head? ≠ some ' ') :
    substitute lineBreakRule (s.filter (· != '\r') ++ rest) =
      onOneLine s ++ substitute lineBreakRule rest :=
  substitute_lineBreakRule_append _ hrest

/-- The words of a text are those of its lines. -/
lemma words_joined (s : List Char) : words (joined s) = words s := by
  induction s using lineInduction with
  | line s hs => rw [joined_of_notMem hs]
  | feed s t hs ih =>
    have hspaces : ∀ c ∈ t.takeWhile (· == ' '), isBlank c = true := by
      intro c hc
      have hspace := List.mem_takeWhile_imp hc
      exact isBlank_of_eq_space c hspace
    have ht : words (t.dropWhile (· == ' ')) = words t := by
      nth_rewrite 2 [← List.takeWhile_append_dropWhile (p := (· == ' ')) (l := t)]
      exact (wordsAt_append_of_forall_sep_left (fun _ h => h) hspaces _).symm
    rw [joined_append_lineFeed hs, words_append_cons (by decide), ih, ht,
      words_append_cons (by decide)]

end DataContract.Java
