/-
Wrapping a text loses no word and breaks no line early.

A text with its tabs expanded and its separators turned into spaces is its lines,
in order, with blank gaps around them, so what stands on a line stands there as in
the text.  A line is too long only if it is one run without a space.  Where all
blanks of the text are separators, the first word of a line would not have fitted
into the line before.
-/
import DataContract.Proofs.Text.Words

namespace DataContract.Text

/-! ### Stretches of characters -/

/-- The line and the gap of a stretch of runs, as texts. -/
def Stretch.flatten (p : Stretch (List Char)) : Stretch Char := ⟨p.line.flatten, p.gap.flatten⟩

@[simp]
lemma Stretch.whole_flatten (p : Stretch (List Char)) : p.flatten.whole = p.whole.flatten := by
  simp [flatten, whole]

lemma flatten_flatMap_whole (stretches : List (Stretch (List Char))) :
    (stretches.flatMap Stretch.whole).flatten =
      (stretches.map Stretch.flatten).flatMap Stretch.whole := by
  induction stretches with
  | nil => rfl
  | cons p stretches ih => simp [ih]

lemma allBlank_flatten {rs : List (List Char)} (h : ∀ run ∈ rs, allBlank run = true) :
    allBlank rs.flatten = true := by
  rw [allBlank, List.all_eq_true]
  intro c hc
  obtain ⟨run, hrun, hmem⟩ := List.mem_flatten.mp hc
  exact List.all_eq_true.mp (h run hrun) c hmem

/-! ### Blank runs -/

/-- In a text whose blanks are separators, one of two runs side by side is not blank. -/
lemma isChain_runs_of_blank {s : List Char}
    (hs : ∀ c ∈ s, isBlank c = true → isSeparator c = true) :
    (runs s).IsChain (fun r r' => allBlank r = true → allBlank r' = false) := by
  have hletter : ∀ run ∈ runs s, ∀ c ∈ run, c ≠ ' ' → isBlank c = false := by
    intro run hrun c hc hne
    have hmem : c ∈ spaced s := by
      rw [← flatten_runs]
      exact List.mem_flatten_of_mem hrun hc
    rcases mem_spaced hmem with hspace | ⟨hc, hsep⟩
    · exact absurd hspace hne
    · rw [Bool.eq_false_iff]
      intro hblank
      rw [hs c hc hblank] at hsep
      exact Bool.noConfusion hsep
  refine (isChain_runs s).imp_of_mem_imp (fun r r' hr hr' hborder hblank => ?_)
  -- The last character of a blank run is a space, so the next run starts with a letter.
  obtain ⟨c, hlast⟩ : ∃ c, r.getLast? = some c :=
    ⟨_, List.getLast?_eq_some_getLast (ne_nil_of_mem_runs hr)⟩
  have hc : c = ' ' := by
    by_contra hne
    have hmem := List.mem_of_getLast? hlast
    have hletter := hletter r hr c hmem hne
    rw [List.all_eq_true.mp hblank c hmem] at hletter
    exact Bool.noConfusion hletter
  obtain ⟨d, rest, rfl⟩ := List.exists_cons_of_ne_nil (ne_nil_of_mem_runs hr')
  have hd : d ≠ ' ' := by simpa using hborder.mp (by rw [hlast, hc])
  simp [allBlank, hletter _ hr' d List.mem_cons_self hd]

/-! ### Lines -/

lemma exists_filled_wrap (width : Int) (s : List Char) :
    ∃ front stretches, Filled (max width 1).toNat (runs s) front stretches ∧
      (stretches ≠ [] ∧ wrap width s = stretches.map (fun p => p.line.flatten) ∨
        stretches = [] ∧ wrap width s = [[]]) := by
  obtain ⟨front, stretches, hfilled, hlines, -⟩ :=
    exists_filled_fill (max width 1).toNat true (runs s)
  refine ⟨front, stretches, hfilled, ?_⟩
  rw [wrap, hlines]
  cases stretches with
  | nil => exact .inr ⟨rfl, rfl⟩
  | cons p stretches => exact .inl ⟨List.cons_ne_nil p stretches, rfl⟩

namespace Filled

variable {width : Nat} {rs front : List (List Char)} {stretches : List (Stretch (List Char))}

lemma line_isInfix (h : Filled width rs front stretches) {p : Stretch (List Char)}
    (hp : p ∈ stretches) : p.line <:+: rs := by
  obtain ⟨before, after, rfl⟩ := List.append_of_mem hp
  refine ⟨front ++ before.flatMap Stretch.whole, p.gap ++ after.flatMap Stretch.whole, ?_⟩
  rw [h.eq]
  simp [Stretch.whole]

/-- What holds of runs side by side holds at the borders between stretches. -/
lemma isChain_border (h : Filled width rs front stretches)
    {R : List Char → List Char → Prop} (hchain : rs.IsChain R) :
    stretches.IsChain (fun p q => ∀ r ∈ p.whole.getLast?, ∀ r' ∈ q.line.head?, R r r') := by
  have hne : [] ∉ stretches.map Stretch.whole := by
    intro hmem
    obtain ⟨p, hp, hnil⟩ := List.mem_map.mp hmem
    exact h.line_ne_nil p hp (List.append_eq_nil_iff.mp hnil).1
  have hstretches : (stretches.map Stretch.whole).flatten.IsChain R := by
    rw [h.eq] at hchain
    exact hchain.right_of_append
  have hborders := ((List.isChain_flatten hne).mp hstretches).2
  rw [List.isChain_map] at hborders
  refine hborders.imp (fun p q hborder r hr r' hr' => hborder r hr r' ?_)
  obtain ⟨more, hmore⟩ := List.head?_eq_some_iff.mp hr'
  rw [Stretch.whole, hmore]
  rfl

end Filled

/-- A line of a text is not wider than the width, or it is one run without a space. -/
lemma fits_of_mem_wrap {width : Int} {s line : List Char} (h : line ∈ wrap width s) :
    (line.length : Int) ≤ max width 1 ∨ ' ' ∉ line := by
  obtain ⟨front, stretches, hfilled, ⟨-, hlines⟩ | ⟨-, hlines⟩⟩ := exists_filled_wrap width s
  · rw [hlines] at h
    obtain ⟨p, hp, rfl⟩ := List.mem_map.mp h
    rcases hfilled.fits p hp with hfits | ⟨run, hline, hrun⟩
    · left
      omega
    · right
      have hmem : run ∈ runs s := (hfilled.line_isInfix hp).subset (by simp [hline])
      rw [hline, List.flatten_singleton]
      exact space_notMem_of_mem_runs hmem hrun
  · rw [hlines, List.mem_singleton] at h
    exact .inr (by simp [h])

/-- A line has no separator but the space. -/
lemma not_separator_of_mem_wrap {width : Int} {s line : List Char} (h : line ∈ wrap width s)
    {c : Char} (hc : c ∈ line) (hne : c ≠ ' ') : isSeparator c = false := by
  obtain ⟨front, stretches, hfilled, ⟨-, hlines⟩ | ⟨-, hlines⟩⟩ := exists_filled_wrap width s
  · rw [hlines] at h
    obtain ⟨p, hp, rfl⟩ := List.mem_map.mp h
    obtain ⟨run, hrun, hmem⟩ := List.mem_flatten.mp hc
    have hspaced : c ∈ spaced s := by
      rw [← flatten_runs]
      exact List.mem_flatten_of_mem ((hfilled.line_isInfix hp).subset hrun) hmem
    exact ((mem_spaced hspaced).resolve_left hne).2
  · rw [hlines, List.mem_singleton] at h
    rw [h] at hc
    exact absurd hc List.not_mem_nil

/-! ### First words -/

/-- A line that starts with a run that is not blank starts with its first word. -/
lemma wordsAt_space_line {s run : List Char} {more : List (List Char)}
    (hline : run :: more <:+: runs s) (hrun : allBlank run = false) :
    wordsAt (· == ' ') (run :: more).flatten = run :: more.flatMap (wordsAt (· == ' ')) := by
  have hchain : (run :: more).IsChain (CutAt (· == ' ')) := by
    obtain ⟨before, after, hruns⟩ := hline
    have hall : (runs s).IsChain (CutAt (· == ' ')) := isChain_cutAt_runs rfl s
    rw [← hruns] at hall
    exact hall.left_of_append.right_of_append
  have hne : ∀ r ∈ run :: more, r ≠ [] := fun r hr => ne_nil_of_mem_runs (hline.subset hr)
  have hspace := space_notMem_of_mem_runs (hline.subset List.mem_cons_self) hrun
  have hword : wordsAt (· == ' ') run = [run] := by
    refine wordsAt_of_forall_not (fun c hc => ?_) hrun
    rw [beq_eq_false_iff_ne]
    rintro rfl
    exact hspace hc
  rw [wordsAt_flatten isBlank_of_eq_space hne hchain, List.flatMap_cons, hword,
    List.singleton_append]

/-- Where the blanks of a text are separators, a line that is not the first one starts with its
first word, and up to the end of that word there is more text than fits into the line before. -/
lemma Filled.forced_word {width : Nat} {s : List Char} {front : List (List Char)}
    {stretches : List (Stretch (List Char))} (h : Filled width (runs s) front stretches)
    (hs : ∀ c ∈ s, isBlank c = true → isSeparator c = true) :
    stretches.IsChain (fun p q => ∃ word more,
      wordsAt (· == ' ') q.line.flatten = word :: more ∧ word <+: q.line.flatten ∧
        width < (p.whole.flatten ++ word).length) := by
  have hborders := h.isChain_border (isChain_runs_of_blank hs)
  have hforced := h.forced
  rw [List.isChain_iff_getElem] at hborders hforced ⊢
  intro i hi
  have hp : stretches[i] ∈ stretches := List.getElem_mem (Nat.lt_of_succ_lt hi)
  have hq : stretches[i + 1] ∈ stretches := List.getElem_mem hi
  obtain ⟨run, more, hline⟩ := List.exists_cons_of_ne_nil (h.line_ne_nil _ hq)
  have hhead : stretches[i + 1].line.head? = some run := by rw [hline, List.head?_cons]
  obtain ⟨hlt, hopens⟩ := hforced i hi run hhead
  have hrun : allBlank run = false := by
    cases hlast : stretches[i].gap.getLast? with
    | none => exact hopens (List.getLast?_eq_none_iff.mp hlast)
    | some r =>
      have hr := h.gap_blank _ hp r (List.mem_of_getLast? hlast)
      refine hborders i hi r ?_ run hhead hr
      rw [Stretch.whole, List.getLast?_append, hlast]
      rfl
  have hinfix := h.line_isInfix hq
  rw [hline] at hinfix ⊢
  refine ⟨run, _, wordsAt_space_line hinfix hrun, List.prefix_append run more.flatten, ?_⟩
  rwa [List.flatten_append, List.flatten_singleton] at hlt

/-- A text is wrapped to lines that lose no word of it and are broken only where they have to be.
Since the lines with the gaps are the text, words on one line are as far apart as they are there. -/
theorem wrap_fills_greedily (width : Int) (s : List Char) :
    wrap width s ≠ [] ∧
      (∀ line ∈ wrap width s, (line.length : Int) ≤ max width 1 ∨ ' ' ∉ line) ∧
      (wrap width s).flatMap (wordsAt (· == ' ')) = wordsAt (· == ' ') (spaced s) ∧
      ∃ (front : List Char) (stretches : List (Stretch Char)),
        wrap width s = stretches.map Stretch.line ∧
        spaced s = front ++ stretches.flatMap Stretch.whole ∧
        allBlank front = true ∧ (∀ p ∈ stretches, allBlank p.gap = true) ∧
        ((∀ c ∈ s, isBlank c = true → isSeparator c = true) →
          stretches.IsChain (fun p q => ∃ word more,
            wordsAt (· == ' ') q.line = word :: more ∧ word <+: q.line ∧
              max width 1 < (p.whole ++ word).length)) := by
  have hwords := flatMap_wordsAt_wrap isBlank_of_eq_space rfl width s
  refine ⟨wrap_ne_nil width s, fun line hline => fits_of_mem_wrap hline, hwords, ?_⟩
  obtain ⟨front, stretches, hfilled, hlines⟩ := exists_filled_wrap width s
  have htext : spaced s =
      front.flatten ++ (stretches.map Stretch.flatten).flatMap Stretch.whole := by
    rw [← flatten_runs, hfilled.eq, List.flatten_append, flatten_flatMap_whole]
  have hfront := allBlank_flatten hfilled.front_blank
  rcases hlines with ⟨-, hlines⟩ | ⟨hnil, hlines⟩
  · refine ⟨front.flatten, stretches.map Stretch.flatten, ?_, htext, hfront, ?_, fun hs => ?_⟩
    · rw [hlines, List.map_map]
      rfl
    · rw [List.forall_mem_map]
      exact fun p hp => allBlank_flatten (hfilled.gap_blank p hp)
    · rw [List.isChain_map]
      refine (hfilled.forced_word hs).imp (fun p q hforced => ?_)
      obtain ⟨word, more, hword, hstart, hlt⟩ := hforced
      refine ⟨word, more, hword, hstart, ?_⟩
      rw [Stretch.whole_flatten]
      omega
  · -- A text without words is one empty line.
    refine ⟨front.flatten, [⟨[], []⟩], hlines, ?_, hfront, by simp [allBlank],
      fun _ => .singleton _⟩
    rw [htext, hnil]
    rfl

end DataContract.Text
