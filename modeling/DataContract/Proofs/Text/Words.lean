/-
The words of a text and of the lines that are filled with it.

A word is a run of characters without a separator.  Separators are the blanks, or
the spaces only; in both cases a text that is cut beside a separator has the words
of its two parts.  Two runs that stand side by side are cut so, since one of them
is made of spaces: hence the lines that are filled with a text have its words, in
order.
-/
import DataContract.Proofs.Text.Blank
import DataContract.Proofs.Text.Range
import DataContract.Proofs.Text.Wrap

namespace DataContract.Text

/-- The runs of characters other than separators, in order, apart from the blank ones. -/
def wordsAt (sep : Char → Bool) (s : List Char) : List (List Char) :=
  (s.splitBy (fun a b => sep a == sep b)).filter (fun run => !allBlank run)

/-- The texts are cut beside a separator. -/
def CutAt (sep : Char → Bool) (s t : List Char) : Prop :=
  (∃ c ∈ s.getLast?, sep c = true) ∨ ∃ c ∈ t.head?, sep c = true

section Separators

variable {sep : Char → Bool}

@[simp]
lemma wordsAt_nil : wordsAt sep [] = [] := rfl

/-- A blank text has no words. -/
lemma wordsAt_of_allBlank {s : List Char} (h : allBlank s = true) : wordsAt sep s = [] := by
  rw [wordsAt, List.filter_eq_nil_iff]
  intro run hrun
  have hall : allBlank run = true := by
    rw [allBlank, List.all_eq_true] at h ⊢
    intro c hc
    refine h c ?_
    rw [← List.flatten_splitBy (fun a b => sep a == sep b) s]
    exact List.mem_flatten_of_mem hrun hc
  simp [hall]

/-- A text that is not blank and has no separator is one word. -/
lemma wordsAt_of_forall_not {s : List Char} (h : ∀ c ∈ s, sep c = false)
    (hblank : allBlank s = false) : wordsAt sep s = [s] := by
  have hne : s ≠ [] := by
    rintro rfl
    exact Bool.noConfusion hblank
  have hchain : s.IsChain (fun a b => (sep a == sep b) = true) := by
    refine (List.isChain_iff_getElem).mpr (fun i hi => ?_)
    rw [h _ (List.getElem_mem _), h _ (List.getElem_mem _)]
    rfl
  rw [wordsAt, List.splitBy_of_isChain hne hchain]
  simp [hblank]

variable (hsep : ∀ c, sep c = true → isBlank c = true)

include hsep

/-- Separators in front of a text that starts with none belong to no word. -/
lemma wordsAt_append_of_forall_sep {s t : List Char} (hs : ∀ c ∈ s, sep c = true)
    (ht : ∀ c ∈ t.head?, sep c = false) : wordsAt sep (s ++ t) = wordsAt sep t := by
  have hblank : allBlank s = true := List.all_eq_true.mpr (fun c hc => hsep c (hs c hc))
  have hborder : ∀ x ∈ s.getLast?, ∀ y ∈ t.head?, (sep x == sep y) = false := by
    intro x hx y hy
    rw [hs x (List.mem_of_getLast? hx), ht y hy]
    rfl
  have hnil : wordsAt sep s = [] := wordsAt_of_allBlank hblank
  rw [wordsAt] at hnil ⊢
  rw [List.splitBy_append hborder, List.filter_append, hnil, List.nil_append, wordsAt]

lemma wordsAt_cons_of_sep {c : Char} (hc : sep c = true) (s : List Char) :
    wordsAt sep (c :: s) = wordsAt sep s := by
  have hhead : ∀ d ∈ (s.dropWhile sep).head?, sep d = false := by
    intro d hd
    have hnot := List.head?_dropWhile_not sep s
    rw [Option.mem_def.mp hd] at hnot
    simpa using hnot
  have hall : ∀ d ∈ s.takeWhile sep, sep d = true := fun d hd => List.mem_takeWhile_imp hd
  have hcall : ∀ d ∈ c :: s.takeWhile sep, sep d = true := List.forall_mem_cons.mpr ⟨hc, hall⟩
  calc
    wordsAt sep (c :: s) = wordsAt sep ((c :: s.takeWhile sep) ++ s.dropWhile sep) := by
      rw [List.cons_append, List.takeWhile_append_dropWhile]
    _ = wordsAt sep (s.takeWhile sep ++ s.dropWhile sep) := by
      rw [wordsAt_append_of_forall_sep hsep hcall hhead,
        wordsAt_append_of_forall_sep hsep hall hhead]
    _ = wordsAt sep s := by rw [List.takeWhile_append_dropWhile]

/-- The words of two texts with a separator between them are those of the one and of the other. -/
lemma wordsAt_append_cons {c : Char} (hc : sep c = true) (s t : List Char) :
    wordsAt sep (s ++ c :: t) = wordsAt sep s ++ wordsAt sep t := by
  -- The induction moves the separators at the end of the first text to the second.
  induction s using List.reverseRecOn generalizing c t with
  | nil => rw [List.nil_append, wordsAt_cons_of_sep hsep hc, wordsAt_nil, List.nil_append]
  | append_singleton s d ih =>
    by_cases hd : sep d = true
    · rw [List.append_assoc, List.singleton_append, ih hd (c :: t), ih hd [], wordsAt_nil,
        List.append_nil, wordsAt_cons_of_sep hsep hc]
    · have hborder : ∀ x ∈ (s ++ [d]).getLast?, ∀ y ∈ (c :: t).head?, (sep x == sep y) = false := by
        simp [hc, hd]
      have hparts : wordsAt sep ((s ++ [d]) ++ c :: t) =
          wordsAt sep (s ++ [d]) ++ wordsAt sep (c :: t) := by
        rw [wordsAt, List.splitBy_append hborder, List.filter_append]
        rfl
      rw [hparts, wordsAt_cons_of_sep hsep hc]

/-- Texts that are cut beside a separator have their words on their own. -/
lemma wordsAt_append {s t : List Char} (h : CutAt sep s t) :
    wordsAt sep (s ++ t) = wordsAt sep s ++ wordsAt sep t := by
  rcases h with ⟨c, hlast, hc⟩ | ⟨c, hhead, hc⟩
  · obtain ⟨front, rfl⟩ := List.getLast?_eq_some_iff.mp hlast
    rw [List.append_assoc, List.singleton_append, wordsAt_append_cons hsep hc,
      wordsAt_append_cons hsep hc front [], wordsAt_nil, List.append_nil]
  · obtain ⟨rest, rfl⟩ := List.head?_eq_some_iff.mp hhead
    rw [wordsAt_append_cons hsep hc, wordsAt_cons_of_sep hsep hc]

/-- Separators in front of a text belong to no word. -/
lemma wordsAt_append_of_forall_sep_left {s : List Char} (h : ∀ c ∈ s, sep c = true)
    (t : List Char) : wordsAt sep (s ++ t) = wordsAt sep t := by
  induction s with
  | nil => rfl
  | cons c s ih =>
    rw [List.forall_mem_cons] at h
    rw [List.cons_append, wordsAt_cons_of_sep hsep h.1, ih h.2]

lemma wordsAt_flatten {rs : List (List Char)} (hne : ∀ r ∈ rs, r ≠ [])
    (h : rs.IsChain (CutAt sep)) : wordsAt sep rs.flatten = rs.flatMap (wordsAt sep) := by
  induction rs with
  | nil => rfl
  | cons r rs ih =>
    rw [List.forall_mem_cons] at hne
    rw [List.flatten_cons, List.flatMap_cons, ← ih hne.2 h.tail]
    cases rs with
    | nil => simp
    | cons r' rs =>
      obtain ⟨hcut, -⟩ := List.isChain_cons_cons.mp h
      obtain ⟨c, r', rfl⟩ := List.exists_cons_of_ne_nil (hne.2 r' (by simp))
      exact wordsAt_append hsep hcut

end Separators

lemma words_append_cons {c : Char} (hc : isBlank c = true) (s t : List Char) :
    words (s ++ c :: t) = words s ++ words t :=
  wordsAt_append_cons (fun _ h => h) hc s t

lemma isBlank_of_eq_space (c : Char) (h : (c == ' ') = true) : isBlank c = true := by
  rw [beq_iff_eq.mp h]
  decide

/-! ### Lines -/

section Lines

variable {sep : Char → Bool}

/-- Where spaces are separators, runs are cut beside separators. -/
lemma isChain_cutAt_runs (hspace : sep ' ' = true) (s : List Char) :
    (runs s).IsChain (CutAt sep) := by
  refine (isChain_runs s).imp (fun r r' hborder => ?_)
  by_cases hlast : r.getLast? = some ' '
  · exact .inl ⟨' ', hlast, hspace⟩
  · exact .inr ⟨' ', not_not.mp (mt hborder.mpr hlast), hspace⟩

variable (hsep : ∀ c, sep c = true → isBlank c = true)

include hsep

/-- Every line of a filling takes its runs as they are, and blank runs have no words. -/
lemma Filling.flatMap_wordsAt {rs lines : List (List Char)} (h : Filling rs lines)
    (hne : ∀ r ∈ rs, r ≠ []) (hchain : rs.IsChain (CutAt sep)) :
    lines.flatMap (wordsAt sep) = rs.flatMap (wordsAt sep) := by
  induction h with
  | nil => rfl
  | blank hrun _ ih =>
    rw [List.forall_mem_cons] at hne
    rw [ih hne.2 hchain.tail, List.flatMap_cons, wordsAt_of_allBlank hrun, List.nil_append]
  | line _ ih =>
    rw [List.forall_mem_append] at hne
    rw [List.flatMap_cons, List.flatMap_append, wordsAt_flatten hsep hne.1 hchain.left_of_append,
      ih hne.2 hchain.right_of_append]

/-- Where spaces are separators, the lines that a text is wrapped to have its words, in order. -/
lemma flatMap_wordsAt_wrap (hspace : sep ' ' = true) (width : Int) (s : List Char) :
    (wrap width s).flatMap (wordsAt sep) = wordsAt sep (spaced s) := by
  have hchain := isChain_cutAt_runs hspace s
  have hne : ∀ r ∈ runs s, r ≠ [] := fun r hr => ne_nil_of_mem_runs hr
  have hlines := (filling_fill (max width 1).toNat true (runs s)).flatMap_wordsAt hsep hne hchain
  rw [← wordsAt_flatten hsep hne hchain, flatten_runs] at hlines
  rw [wrap]
  split
  · rename_i hempty
    rw [hempty] at hlines
    exact hlines
  · exact hlines

end Lines

/-! ### Words of a text without its blank ends -/

lemma words_eq_nil_iff {s : List Char} : words s = [] ↔ allBlank s = true := by
  refine ⟨fun h => ?_, wordsAt_of_allBlank⟩
  rw [words, List.filter_eq_nil_iff] at h
  rw [← List.flatten_splitBy (fun a b => isBlank a == isBlank b) s, allBlank, List.all_flatten,
    List.all_eq_true]
  intro run hrun
  simpa [allBlank] using h run hrun

lemma words_append_of_allBlank (s : List Char) {t : List Char} (h : allBlank t = true) :
    words (s ++ t) = words s := by
  cases t with
  | nil => rw [List.append_nil]
  | cons c t =>
    rw [allBlank, List.all_cons, Bool.and_eq_true] at h
    have hrest : words t = [] := wordsAt_of_allBlank h.2
    rw [words_append_cons h.1, hrest, List.append_nil]

lemma words_trimRight (s : List Char) : words (trimRight s) = words s := by
  obtain ⟨back, hs, hback⟩ := exists_blank_of_trimRight s
  nth_rewrite 2 [hs]
  exact (words_append_of_allBlank _ (List.all_eq_true.mpr hback)).symm

lemma words_trim (s : List Char) : words (trim s) = words s := by
  have hfront : ∀ c ∈ s.takeWhile isBlank, isBlank c = true := fun c hc => List.mem_takeWhile_imp hc
  rw [trim, words_trimRight]
  nth_rewrite 2 [← List.takeWhile_append_dropWhile (p := isBlank) (l := s)]
  exact (wordsAt_append_of_forall_sep_left (fun _ hc => hc) hfront _).symm

/-! ### Words of a spaced text -/

lemma isBlank_of_isSeparator {c : Char} (h : isSeparator c = true) : isBlank c = true := by
  rw [isSeparator, Bool.or_eq_true, Bool.and_eq_true, decide_eq_true_eq, decide_eq_true_eq] at h
  rcases h with hspace | ⟨hfirst, hlast⟩
  · exact isBlank_of_eq_space c hspace
  · exact inRanges_iff.mpr ⟨⟨0x9, 0xd⟩, List.mem_cons_self, hfirst, hlast⟩

/-- A step of the induction is a character, so the statement is about a text behind another: that
may end within a word. -/
lemma words_append_expandTabs (p : List Char) (column : Nat) (s : List Char) :
    words (p ++ expandTabs column s) = words (p ++ s) := by
  induction s generalizing p column with
  | nil => rfl
  | cons c s ih =>
    by_cases hc : c = '\t'
    · obtain ⟨n, column', hexpand⟩ := expandTabs_tab column s
      have hspaces : ∀ d ∈ List.replicate n ' ', isBlank d = true := fun d hd => by
        rw [List.eq_of_mem_replicate hd]
        decide
      have hpad : words (List.replicate n ' ' ++ expandTabs column' s) =
          words (expandTabs column' s) :=
        wordsAt_append_of_forall_sep_left (fun _ hd => hd) hspaces _
      rw [hc, hexpand, List.replicate_succ, List.cons_append, words_append_cons (by decide), hpad,
        words_append_cons (by decide)]
      exact congrArg (words p ++ ·) (ih [] column')
    · obtain ⟨column', hexpand⟩ := expandTabs_cons_of_ne hc column s
      rw [hexpand, List.append_cons, ih, ← List.append_cons]

lemma words_append_map_separator (p s : List Char) :
    words (p ++ s.map (fun c => if isSeparator c then ' ' else c)) = words (p ++ s) := by
  induction s generalizing p with
  | nil => rfl
  | cons c s ih =>
    rw [List.map_cons]
    split
    · rename_i hsep
      rw [words_append_cons (by decide), words_append_cons (isBlank_of_isSeparator hsep)]
      exact congrArg (words p ++ ·) (ih [])
    · rw [List.append_cons, ih, ← List.append_cons]

lemma words_spaced (s : List Char) : words (spaced s) = words s :=
  (words_append_map_separator [] _).trans (words_append_expandTabs [] 0 s)

/-- The lines that a text is wrapped to have its words, in order. -/
lemma flatMap_words_wrap (width : Int) (s : List Char) : (wrap width s).flatMap words = words s :=
  (flatMap_wordsAt_wrap (fun _ hc => hc) (by decide) width s).trans (words_spaced s)

end DataContract.Text
