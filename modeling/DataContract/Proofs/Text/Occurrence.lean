/-
What the functions on occurrences give, as equations between texts.

A text starts or ends with another one exactly if the rest can be put before or
after it, and the pieces between the occurrences of a character are the only
texts without that character that it joins to the whole.
-/
import DataContract.Text.Occurrence
import Mathlib.Tactic.Common

namespace DataContract.Text

/-! ### Starts and ends -/

lemma dropPrefix?_eq_some_iff {pre s rest : List Char} :
    dropPrefix? pre s = some rest ↔ s = pre ++ rest := by
  induction pre generalizing s with
  | nil => simp [dropPrefix?]
  | cons p pre ih =>
    cases s with
    | nil => simp [dropPrefix?]
    | cons c s =>
      by_cases hc : p = c
      · simp [dropPrefix?, hc, ih]
      · simp [dropPrefix?, hc, Ne.symm hc]

lemma dropPrefix?_eq_none_iff {pre s : List Char} : dropPrefix? pre s = none ↔ ¬ pre <+: s := by
  rw [Option.eq_none_iff_forall_ne_some]
  constructor
  · rintro h ⟨rest, rfl⟩
    exact h rest (dropPrefix?_eq_some_iff.mpr rfl)
  · intro h rest hrest
    exact h ⟨rest, (dropPrefix?_eq_some_iff.mp hrest).symm⟩

lemma dropSuffix?_eq_some_iff {suf s rest : List Char} :
    dropSuffix? suf s = some rest ↔ s = rest ++ suf := by
  simp only [dropSuffix?, Option.map_eq_some_iff, dropPrefix?_eq_some_iff]
  constructor
  · rintro ⟨r, hr, rfl⟩
    simpa using congrArg List.reverse hr
  · rintro rfl
    exact ⟨rest.reverse, by simp, by simp⟩

lemma dropSuffix?_append (suf rest : List Char) : dropSuffix? suf (rest ++ suf) = some rest :=
  dropSuffix?_eq_some_iff.mpr rfl

lemma dropSuffix?_eq_none_iff {suf s : List Char} : dropSuffix? suf s = none ↔ ¬ suf <:+ s := by
  rw [Option.eq_none_iff_forall_ne_some]
  constructor
  · rintro h ⟨rest, rfl⟩
    exact h rest (dropSuffix?_append suf rest)
  · intro h rest hrest
    exact h ⟨rest, (dropSuffix?_eq_some_iff.mp hrest).symm⟩

/-- What is left of a text without a mark at its end; a text that does not end in it stays. -/
inductive Stripped (mark : List Char) : List Char → List Char → Prop
  | marked (s : List Char) : Stripped mark (s ++ mark) s
  | bare {s : List Char} (h : ¬ mark <:+ s) : Stripped mark s s

lemma stripped_iff {mark s rest : List Char} : Stripped mark s rest ↔ dropSuffix mark s = rest := by
  constructor
  · intro h
    cases h with
    | marked => rw [dropSuffix, dropSuffix?_append, Option.getD_some]
    | bare h => rw [dropSuffix, dropSuffix?_eq_none_iff.mpr h, Option.getD_none]
  · rintro rfl
    rw [dropSuffix]
    cases hdrop : dropSuffix? mark s with
    | none => exact .bare (dropSuffix?_eq_none_iff.mp hdrop)
    | some rest =>
      rw [dropSuffix?_eq_some_iff.mp hdrop]
      exact .marked rest

/-- A text stays as it is without a mark at its end exactly if it does not end in it. -/
lemma dropSuffix_eq_self_iff {mark s : List Char} (hmark : mark ≠ []) :
    dropSuffix mark s = s ↔ ¬ mark <:+ s := by
  constructor
  · rintro h ⟨front, rfl⟩
    rw [stripped_iff.mp (.marked front)] at h
    exact hmark (List.append_right_eq_self.mp h.symm)
  · exact fun h => stripped_iff.mp (.bare h)

lemma Stripped.isPrefix {mark s rest : List Char} (h : Stripped mark s rest) : rest <+: s := by
  cases h with
  | marked => exact List.prefix_append rest mark
  | bare => exact List.prefix_rfl

/-- A mark stands at the end of what is left of a text exactly if it stands there twice. -/
lemma suffix_dropSuffix_iff {mark s : List Char} :
    mark <:+ dropSuffix mark s ↔ mark ++ mark <:+ s := by
  by_cases h : mark <:+ s
  · obtain ⟨front, rfl⟩ := h
    rw [stripped_iff.mp (.marked front), List.suffix_append_self_iff]
  · rw [stripped_iff.mp (.bare h)]
    exact iff_of_false h (fun htwice => h ((List.suffix_append mark mark).trans htwice))

lemma dropFinalLineFeed_append (s : List Char) : dropFinalLineFeed (s ++ ['\n']) = s := by
  simp [dropFinalLineFeed]

lemma dropFinalLineFeed_of_notMem {s : List Char} (h : '\n' ∉ s) : dropFinalLineFeed s = s := by
  rw [dropFinalLineFeed]
  split
  · rename_i hlast
    exact absurd (List.mem_of_getLast? hlast) h
  · rfl

/-- What is left of a text without its final line feed is the text, or a line feed has followed. -/
lemma dropFinalLineFeed_cases (s : List Char) :
    s = dropFinalLineFeed s ∨ s = dropFinalLineFeed s ++ ['\n'] := by
  rw [dropFinalLineFeed]
  split
  · rename_i hlast
    obtain ⟨front, rfl⟩ := List.getLast?_eq_some_iff.mp hlast
    right
    simp
  · exact Or.inl rfl

/-! ### Pieces -/

lemma pieces_ne_nil (sep : Char) (s : List Char) : pieces sep s ≠ [] := by
  cases s with
  | nil => simp [pieces]
  | cons c s =>
    rw [pieces]
    split
    · simp
    · split <;> simp

lemma pieces_cons_of_ne {sep c : Char} (hc : c ≠ sep) (s : List Char) :
    ∃ piece more, pieces sep s = piece :: more ∧
      pieces sep (c :: s) = (c :: piece) :: more := by
  obtain ⟨piece, more, hs⟩ := List.exists_cons_of_ne_nil (pieces_ne_nil sep s)
  exact ⟨piece, more, hs, by simp [pieces, hc, hs]⟩

lemma pieces_of_notMem {sep : Char} {s : List Char} (h : sep ∉ s) : pieces sep s = [s] := by
  induction s with
  | nil => rfl
  | cons c s ih =>
    simp only [List.mem_cons, not_or] at h
    have hc : c ≠ sep := Ne.symm h.1
    simp [pieces, hc, ih h.2]

/-- The pieces of two texts with a separator between them are those of the one and of the other. -/
lemma pieces_append_cons (sep : Char) (a b : List Char) :
    pieces sep (a ++ sep :: b) = pieces sep a ++ pieces sep b := by
  induction a with
  | nil => simp [pieces]
  | cons c a ih =>
    by_cases hc : c = sep
    · simp [pieces, hc, ih]
    · obtain ⟨piece, more, ha, hca⟩ := pieces_cons_of_ne hc a
      rw [hca, List.cons_append, pieces]
      simp [hc, ih, ha]

lemma pieces_append {sep : Char} {a : List Char} (ha : sep ∉ a) (b : List Char) :
    pieces sep (a ++ sep :: b) = a :: pieces sep b := by
  rw [pieces_append_cons, pieces_of_notMem ha, List.singleton_append]

lemma notMem_of_mem_pieces {sep : Char} {s piece : List Char} (h : piece ∈ pieces sep s) :
    sep ∉ piece := by
  induction s generalizing piece with
  | nil =>
    simp only [pieces, List.mem_singleton] at h
    simp [h]
  | cons c s ih =>
    by_cases hc : c = sep
    · simp only [pieces, hc, beq_self_eq_true, if_true, List.mem_cons] at h
      rcases h with rfl | h
      · simp
      · exact ih h
    · obtain ⟨first, more, hs, hcs⟩ := pieces_cons_of_ne hc s
      rw [hcs, List.mem_cons] at h
      rcases h with rfl | h
      · have hfirst : sep ∉ first := ih (by simp [hs])
        simpa [Ne.symm hc] using hfirst
      · exact ih (by simp [hs, h])

/-- The pieces of a text, joined by the separator, are the text. -/
lemma intercalate_pieces (sep : Char) (s : List Char) :
    [sep].intercalate (pieces sep s) = s := by
  induction s with
  | nil => rfl
  | cons c s ih =>
    by_cases hc : c = sep
    · obtain ⟨piece, more, hs⟩ := List.exists_cons_of_ne_nil (pieces_ne_nil sep s)
      rw [hs] at ih
      simp [pieces, hc, hs, ih]
    · obtain ⟨piece, more, hs, hcs⟩ := pieces_cons_of_ne hc s
      rw [hs] at ih
      rw [hcs]
      cases more with
      | nil => simpa using ih
      | cons next more => simpa using ih

/-- A text has two pieces exactly if the separator stands in it once. -/
lemma pieces_eq_pair_iff {sep : Char} {s a b : List Char} :
    pieces sep s = [a, b] ↔ s = a ++ sep :: b ∧ sep ∉ a ∧ sep ∉ b := by
  constructor
  · intro h
    have hs := intercalate_pieces sep s
    rw [h] at hs
    refine ⟨?_, notMem_of_mem_pieces (s := s) (by simp [h]),
      notMem_of_mem_pieces (s := s) (by simp [h])⟩
    simpa using hs.symm
  · rintro ⟨rfl, ha, hb⟩
    rw [pieces_append ha, pieces_of_notMem hb]

/-! ### First and last occurrences -/

/-- What stands before and after the first occurrence of a text makes up the whole with it. -/
lemma eq_of_splitFirst? {pat s before after : List Char}
    (h : splitFirst? pat s = some (before, after)) : s = before ++ pat ++ after := by
  induction s generalizing before with
  | nil =>
    simp only [splitFirst?, Option.ite_none_right_eq_some, List.isEmpty_iff, Option.some.injEq,
      Prod.mk.injEq] at h
    obtain ⟨rfl, rfl, rfl⟩ := h
    rfl
  | cons c s ih =>
    rw [splitFirst?] at h
    cases hdrop : dropPrefix? pat (c :: s) with
    | some rest =>
      simp only [hdrop, Option.some.injEq, Prod.mk.injEq] at h
      obtain ⟨rfl, rfl⟩ := h
      rw [List.nil_append, ← dropPrefix?_eq_some_iff.mp hdrop]
    | none =>
      simp only [hdrop, Option.map_eq_some_iff, Prod.exists, Prod.mk.injEq] at h
      obtain ⟨front, rest, hsplit, rfl, rfl⟩ := h
      rw [ih hsplit]
      rfl

/-- A text is split at the first occurrence of a character. -/
lemma splitFirst?_singleton {c : Char} {before : List Char} (h : c ∉ before) (after : List Char) :
    splitFirst? [c] (before ++ c :: after) = some (before, after) := by
  induction before with
  | nil => simp [splitFirst?, dropPrefix?]
  | cons d before ih =>
    simp only [List.mem_cons, not_or] at h
    simp [splitFirst?, dropPrefix?, h.1, ih h.2]

/-- The text up to the first occurrence of a character. -/
lemma takeWhile_append_cons {c : Char} {s : List Char} (h : c ∉ s) (t : List Char) :
    (s ++ c :: t).takeWhile (· != c) = s := by
  have hall : ∀ d ∈ s, (d != c) = true := by
    intro d hd
    rw [bne_iff_ne]
    rintro rfl
    exact h hd
  rw [List.takeWhile_append_of_pos hall, List.takeWhile_cons_of_neg (by simp), List.append_nil]

/-- The text from the first occurrence of a character on. -/
lemma dropWhile_append_cons {c : Char} {s : List Char} (h : c ∉ s) (t : List Char) :
    (s ++ c :: t).dropWhile (· != c) = c :: t := by
  have hsplit := List.takeWhile_append_dropWhile (p := (· != c)) (l := s ++ c :: t)
  rw [takeWhile_append_cons h t] at hsplit
  exact List.append_cancel_left hsplit

/-- A text has one first occurrence of a character. -/
lemma eq_of_append_cons_eq {c : Char} {a b s t : List Char} (ha : c ∉ a) (hb : c ∉ b)
    (h : a ++ c :: s = b ++ c :: t) : a = b ∧ s = t := by
  have hsplit := splitFirst?_singleton ha s
  rw [h, splitFirst?_singleton hb t, Option.some.injEq, Prod.mk.injEq] at hsplit
  exact ⟨hsplit.1.symm, hsplit.2.symm⟩

/-- A text without an occurrence of another is not split. -/
lemma splitFirst?_eq_none_iff {pat s : List Char} : splitFirst? pat s = none ↔ ¬ pat <:+: s := by
  induction s with
  | nil => simp [splitFirst?]
  | cons c s ih =>
    rw [List.infix_cons_iff, splitFirst?]
    cases hstart : dropPrefix? pat (c :: s) with
    | some after =>
      rw [dropPrefix?_eq_some_iff.mp hstart]
      simp
    | none =>
      rw [dropPrefix?_eq_none_iff] at hstart
      simp [ih, hstart]

lemma exists_of_beforeLast? {pat s before : List Char} (h : beforeLast? pat s = some before) :
    ∃ after, s = before ++ (pat ++ after) := by
  simp only [beforeLast?, Option.map_eq_some_iff, Prod.exists] at h
  obtain ⟨back, front, hsplit, rfl⟩ := h
  have hs := congrArg List.reverse (eq_of_splitFirst? hsplit)
  refine ⟨back.reverse, ?_⟩
  simpa using hs

lemma beforeLast?_eq_none_iff {pat s : List Char} : beforeLast? pat s = none ↔ ¬ pat <:+: s := by
  rw [beforeLast?, Option.map_eq_none_iff, splitFirst?_eq_none_iff, List.reverse_infix]

/-- What stands before the last occurrence of a text is a start of the whole. -/
lemma prefix_of_beforeLast? {pat s before : List Char} (h : beforeLast? pat s = some before) :
    before <+: s := by
  obtain ⟨after, rfl⟩ := exists_of_beforeLast? h
  exact List.prefix_append before _

end DataContract.Text
