/-
How lines are filled.

The runs of a text alternate between spaces and other characters.  A line holds
whole runs that stand side by side, in order, and the runs between two lines are
blank.  A line is left only when the next run does not fit into it: `Filled` says
so of all lines together, and what else is proved about lines is read off it.
-/
import DataContract.Text.Wrap
import Mathlib.Data.List.SplitBy

namespace DataContract.Text

/-! ### Tabs and separators -/

lemma expandTabs_tab (column : Nat) (s : List Char) :
    ∃ n column', expandTabs column ('\t' :: s) =
      List.replicate (n + 1) ' ' ++ expandTabs column' s := by
  have hpad : tabWidth - column % tabWidth ≠ 0 := by
    have := Nat.mod_lt column (show tabWidth > 0 by decide)
    omega
  obtain ⟨n, hn⟩ := Nat.exists_eq_succ_of_ne_zero hpad
  refine ⟨n, column + (tabWidth - column % tabWidth), ?_⟩
  rw [← Nat.succ_eq_add_one, ← hn]
  rfl

lemma expandTabs_cons_of_ne {c : Char} (h : c ≠ '\t') (column : Nat) (s : List Char) :
    ∃ column', expandTabs column (c :: s) = c :: expandTabs column' s := by
  rw [expandTabs, if_neg (by simpa using h)]
  split
  · exact ⟨0, rfl⟩
  · exact ⟨column + 1, rfl⟩

lemma mem_of_mem_expandTabs {column : Nat} {s : List Char} {c : Char}
    (h : c ∈ expandTabs column s) : c = ' ' ∨ c ∈ s := by
  induction s generalizing column with
  | nil => cases h
  | cons d s ih =>
    by_cases hd : d = '\t'
    · obtain ⟨n, column', hexpand⟩ := expandTabs_tab column s
      rw [hd, hexpand, List.mem_append] at h
      rcases h with h | h
      · exact .inl (List.eq_of_mem_replicate h)
      · exact (ih h).imp_right (List.mem_cons_of_mem d)
    · obtain ⟨column', hexpand⟩ := expandTabs_cons_of_ne hd column s
      rw [hexpand, List.mem_cons] at h
      rcases h with rfl | h
      · exact .inr List.mem_cons_self
      · exact (ih h).imp_right (List.mem_cons_of_mem d)

/-- A spaced text has no separator but the space. -/
lemma mem_spaced {s : List Char} {c : Char} (h : c ∈ spaced s) :
    c = ' ' ∨ c ∈ s ∧ isSeparator c = false := by
  obtain ⟨d, hd, hc⟩ := List.mem_map.mp h
  split at hc
  · exact .inl hc.symm
  · rename_i hsep
    subst hc
    refine (mem_of_mem_expandTabs hd).imp_right (fun hmem => ⟨hmem, ?_⟩)
    simpa using hsep

/-! ### Runs -/

lemma flatten_runs (s : List Char) : (runs s).flatten = spaced s :=
  List.flatten_splitBy _ _

lemma ne_nil_of_mem_runs {s run : List Char} (h : run ∈ runs s) : run ≠ [] :=
  List.ne_nil_of_mem_splitBy h

lemma forall_eq_space_of_isChain {run : List Char}
    (h : run.IsChain (fun a b => ((a == ' ') == (b == ' ')) = true)) (hspace : ' ' ∈ run) :
    ∀ c ∈ run, c = ' ' := by
  induction run with
  | nil => exact List.forall_mem_nil _
  | cons c run ih =>
    cases run with
    | nil => simpa [eq_comm] using hspace
    | cons d run =>
      obtain ⟨hborder, hchain⟩ := List.isChain_cons_cons.mp h
      have hcd : c = ' ' ↔ d = ' ' := by simpa using hborder
      have hmem : ' ' ∈ d :: run := by
        rcases List.mem_cons.mp hspace with hc | hmem
        · rw [hcd.mp hc.symm]
          exact List.mem_cons_self
        · exact hmem
      have hall := ih hchain hmem
      exact List.forall_mem_cons.mpr ⟨hcd.mpr (hall d List.mem_cons_self), hall⟩

/-- A run that is not blank has no space. -/
lemma space_notMem_of_mem_runs {s run : List Char} (h : run ∈ runs s)
    (hrun : allBlank run = false) : ' ' ∉ run := by
  intro hspace
  have hall := forall_eq_space_of_isChain (List.isChain_of_mem_splitBy h) hspace
  have hblank : allBlank run = true := by
    rw [allBlank, List.all_eq_true]
    intro c hc
    rw [hall c hc]
    decide
  rw [hblank] at hrun
  exact Bool.noConfusion hrun

/-- Of the characters at a border between two runs, one is a space and the other is not. -/
lemma isChain_runs (s : List Char) :
    (runs s).IsChain (fun r r' => (r.getLast? = some ' ' ↔ r'.head? ≠ some ' ')) := by
  refine (List.isChain_getLast_head_splitBy _ (spaced s)).imp (fun r r' h => ?_)
  obtain ⟨hr, hr', hborder⟩ := h
  rw [List.getLast?_eq_some_getLast hr, List.head?_eq_some_head hr']
  by_cases hlast : r.getLast hr = ' ' <;> by_cases hhead : r'.head hr' = ' ' <;> simp_all

/-! ### Lines -/

lemma takeFitting_append (room : Nat) (rs : List (List Char)) :
    (takeFitting room rs).1 ++ (takeFitting room rs).2 = rs := by
  induction rs generalizing room with
  | nil => rfl
  | cons run rest ih =>
    rw [takeFitting]
    split
    · simp [ih]
    · rfl

/-- A line takes what fits, or one run that does not fit by itself. -/
lemma takeLine_cases (width : Nat) (rs : List (List Char)) :
    takeLine width rs = takeFitting width rs ∨
      ∃ run rest, takeFitting width rs = ([], run :: rest) ∧ takeLine width rs = ([run], rest) := by
  rw [takeLine]
  split
  · rename_i run rest hfitting
    exact .inr ⟨run, rest, hfitting, rfl⟩
  · exact .inl rfl

lemma takeLine_append (width : Nat) (rs : List (List Char)) :
    (takeLine width rs).1 ++ (takeLine width rs).2 = rs := by
  have happend := takeFitting_append width rs
  rcases takeLine_cases width rs with hline | ⟨run, rest, hfitting, hline⟩
  · rw [hline, happend]
  · rw [hfitting] at happend
    rw [hline, ← happend]
    rfl

lemma takeLine_ne_nil (width : Nat) {rs : List (List Char)} (h : rs ≠ []) :
    (takeLine width rs).1 ≠ [] := by
  intro hnil
  have happend := takeLine_append width rs
  have hlt := takeLine_rest_lt width h
  rw [hnil, List.nil_append] at happend
  rw [happend] at hlt
  exact Nat.lt_irrefl _ hlt

/-! ### Runs that fit -/

lemma length_takeFitting_le (room : Nat) (rs : List (List Char)) :
    (takeFitting room rs).1.flatten.length ≤ room := by
  induction rs generalizing room with
  | nil => exact Nat.zero_le room
  | cons run rest ih =>
    rw [takeFitting]
    split
    · have hrest := ih (room - run.length)
      simp only [List.flatten_cons, List.length_append]
      omega
    · exact Nat.zero_le room

/-- The first run that is left does not fit behind the others. -/
lemma lt_length_of_takeFitting {room : Nat} {rs rest : List (List Char)} {run : List Char}
    (h : (takeFitting room rs).2 = run :: rest) :
    room < ((takeFitting room rs).1 ++ [run]).flatten.length := by
  induction rs generalizing room with
  | nil => cases h
  | cons first others ih =>
    rw [takeFitting] at h ⊢
    split at h
    · rename_i hfirst
      have hlt := ih h
      rw [if_pos hfirst]
      simp only [List.cons_append, List.flatten_cons, List.length_append] at hlt ⊢
      omega
    · rename_i hfirst
      rw [if_neg hfirst]
      cases h
      simpa using hfirst

lemma takeLine_fits (width : Nat) (rs : List (List Char)) :
    (takeLine width rs).1.flatten.length ≤ width ∨ ∃ run, (takeLine width rs).1 = [run] := by
  rcases takeLine_cases width rs with hline | ⟨run, rest, -, hline⟩
  · rw [hline]
    exact .inl (length_takeFitting_le width rs)
  · exact .inr ⟨run, by rw [hline]⟩

/-- The first run that a line leaves does not fit into it. -/
lemma lt_length_of_takeLine {width : Nat} {rs rest : List (List Char)} {run : List Char}
    (h : (takeLine width rs).2 = run :: rest) :
    width < ((takeLine width rs).1 ++ [run]).flatten.length := by
  rcases takeLine_cases width rs with hline | ⟨first, others, hfitting, hline⟩
  · rw [hline] at h ⊢
    exact lt_length_of_takeFitting h
  · -- A run stands alone because it is longer than the line.
    have hlt := lt_length_of_takeFitting (congrArg Prod.snd hfitting)
    rw [hfitting] at hlt
    rw [hline, List.flatten_append, List.length_append]
    exact Nat.lt_add_right _ hlt

/-! ### Lines side by side -/

/-- A line, and what stands between it and the next one. -/
structure Stretch (α : Type) where
  line : List α
  gap : List α

/-- The line and what follows it up to the next one. -/
def Stretch.whole {α : Type} (p : Stretch α) : List α := p.line ++ p.gap

/-- Runs that fill lines greedily.  The runs in front of the first line and those between lines are
blank, a line that is too long has one run, and the first run of the next line would not fit. -/
structure Filled (width : Nat) (rs front : List (List Char))
    (stretches : List (Stretch (List Char))) : Prop where
  eq : rs = front ++ stretches.flatMap Stretch.whole
  front_blank : ∀ run ∈ front, allBlank run = true
  gap_blank : ∀ p ∈ stretches, ∀ run ∈ p.gap, allBlank run = true
  line_ne_nil : ∀ p ∈ stretches, p.line ≠ []
  fits : ∀ p ∈ stretches, p.line.flatten.length ≤ width ∨
    ∃ run, p.line = [run] ∧ allBlank run = false
  forced : stretches.IsChain (fun p q => ∀ run ∈ q.line.head?,
    width < (p.whole ++ [run]).flatten.length ∧ (p.gap = [] → allBlank run = false))

namespace Filled

variable {width : Nat} {rs front : List (List Char)} {stretches : List (Stretch (List Char))}

/-- Blank runs can stand in front. -/
lemma of_append (h : Filled width rs front stretches) {dropped : List (List Char)}
    (hdropped : ∀ run ∈ dropped, allBlank run = true) :
    Filled width (dropped ++ rs) (dropped ++ front) stretches := by
  refine { h with eq := ?_, front_blank := List.forall_mem_append.mpr ⟨hdropped, h.front_blank⟩ }
  rw [h.eq, List.append_assoc]

/-- One more line: its gap reaches to the first line of the others. -/
lemma cons (h : Filled width rs front stretches) {line gap : List (List Char)} (hline : line ≠ [])
    (hgap : ∀ run ∈ gap, allBlank run = true)
    (hfits : line.flatten.length ≤ width ∨ ∃ run, line = [run] ∧ allBlank run = false)
    (hnext : ∀ run ∈ rs.head?, width < (line ++ gap ++ [run]).flatten.length)
    (hopens : front = [] → ∀ q ∈ stretches.head?, ∀ run ∈ q.line.head?, allBlank run = false) :
    Filled width (line ++ (gap ++ rs)) [] (⟨line, gap ++ front⟩ :: stretches) where
  eq := by simp [h.eq, Stretch.whole]
  front_blank := List.forall_mem_nil _
  gap_blank := List.forall_mem_cons.mpr
    ⟨List.forall_mem_append.mpr ⟨hgap, h.front_blank⟩, h.gap_blank⟩
  line_ne_nil := List.forall_mem_cons.mpr ⟨hline, h.line_ne_nil⟩
  fits := List.forall_mem_cons.mpr ⟨hfits, h.fits⟩
  forced := by
    cases stretches with
    | nil => exact List.isChain_singleton _
    | cons q stretches =>
      refine List.isChain_cons_cons.mpr ⟨fun run hrun => ⟨?_, fun hnil => ?_⟩, h.forced⟩
      · -- The first run that was left is blank and in front of the next line, or it opens it.
        obtain ⟨more, hmore⟩ := List.head?_eq_some_iff.mp hrun
        have hrs : rs = front ++ (run :: more ++ (q.gap ++ stretches.flatMap Stretch.whole)) := by
          rw [h.eq, List.flatMap_cons, Stretch.whole, hmore, List.append_assoc]
        cases front with
        | nil =>
          have hlt := hnext run (by rw [hrs]; rfl)
          simpa [Stretch.whole] using hlt
        | cons first others =>
          have hlt := hnext first (by rw [hrs]; rfl)
          simp only [Stretch.whole, List.flatten_append, List.flatten_cons, List.flatten_nil,
            List.length_append] at hlt ⊢
          omega
      · exact hopens (List.append_eq_nil_iff.mp hnil).2 q rfl run hrun

end Filled

/-! ### The lines of a filling -/

/-- A blank run is left out at the start of a line. -/
lemma exists_lineStart_append (first : Bool) (rs : List (List Char)) :
    ∃ dropped, rs = dropped ++ lineStart first rs ∧ (∀ run ∈ dropped, allBlank run = true) ∧
      (first = false → dropped = [] → ∀ run ∈ rs.head?, allBlank run = false) := by
  cases first with
  | true => exact ⟨[], rfl, List.forall_mem_nil _, fun h => Bool.noConfusion h⟩
  | false =>
    cases rs with
    | nil => exact ⟨[], rfl, List.forall_mem_nil _, by simp⟩
    | cons run rs =>
      by_cases hrun : allBlank run = true
      · refine ⟨[run], by simp [lineStart, dropBlankHead, hrun], ?_, by simp⟩
        exact List.forall_mem_singleton.mpr hrun
      · refine ⟨[], by simp [lineStart, dropBlankHead, hrun], List.forall_mem_nil _, ?_⟩
        simpa using hrun

/-- A blank run is left out at the end of a line. -/
lemma exists_dropBlankLast_append (line : List (List Char)) :
    ∃ dropped, line = dropBlankLast line ++ dropped ∧ (∀ run ∈ dropped, allBlank run = true) ∧
      ∀ run, line = [run] → dropBlankLast line ≠ [] → allBlank run = false := by
  rw [dropBlankLast]
  split
  · rename_i run hlast
    split
    · rename_i hrun
      refine ⟨[run], (List.dropLast_append_getLast? run hlast).symm, ?_, ?_⟩
      · exact List.forall_mem_singleton.mpr hrun
      · rintro single rfl hne
        exact absurd rfl hne
    · rename_i hrun
      refine ⟨[], by simp, List.forall_mem_nil _, ?_⟩
      rintro single rfl -
      cases hlast
      simpa using hrun
  · exact ⟨[], by simp, List.forall_mem_nil _, by simp_all⟩

/-- What is written of the runs of a line is whole, or one run that is not blank. -/
lemma dropBlankLast_takeLine_fits {width : Nat} {rs dropped : List (List Char)}
    (hline : (takeLine width rs).1 = dropBlankLast (takeLine width rs).1 ++ dropped)
    (hsingle : ∀ run, (takeLine width rs).1 = [run] →
      dropBlankLast (takeLine width rs).1 ≠ [] → allBlank run = false)
    (hne : dropBlankLast (takeLine width rs).1 ≠ []) :
    (dropBlankLast (takeLine width rs).1).flatten.length ≤ width ∨
      ∃ run, dropBlankLast (takeLine width rs).1 = [run] ∧ allBlank run = false := by
  rcases takeLine_fits width rs with hfits | ⟨run, hrun⟩
  · left
    rw [hline, List.flatten_append, List.length_append] at hfits
    omega
  · refine .inr ⟨run, ?_, hsingle run hrun hne⟩
    rw [hrun] at hline hne ⊢
    obtain ⟨kept, more, hkept⟩ := List.exists_cons_of_ne_nil hne
    rw [hkept, List.cons_append, List.cons.injEq, eq_comm (a := []),
      List.append_eq_nil_iff] at hline
    rw [hkept, hline.1, hline.2.1]

/-- The lines are filled greedily, and unless it is the first of all, a line with nothing left out
in front of it does not start with a blank run. -/
lemma exists_filled_fill (width : Nat) (first : Bool) (rs : List (List Char)) :
    ∃ front stretches, Filled width rs front stretches ∧
      fill width first rs = stretches.map (fun p => p.line.flatten) ∧
      (first = false → front = [] → ∀ q ∈ stretches.head?, ∀ run ∈ q.line.head?,
        allBlank run = false) := by
  induction first, rs using fill.induct width with
  | case1 first rs hstart =>
    obtain ⟨dropped, hrs, hdropped, -⟩ := exists_lineStart_append first rs
    rw [hstart, List.append_nil] at hrs
    refine ⟨dropped, [], ⟨by simpa using hrs, hdropped, by simp, by simp, by simp, .nil⟩, ?_,
      by simp⟩
    rw [fill, dif_pos hstart]
    rfl
  | case2 first rs hstart _ line rest hline ih =>
    -- Nothing of the line is left once its last run is dropped, so it is not written.
    obtain ⟨start, hrs, hstartBlank, -⟩ := exists_lineStart_append first rs
    obtain ⟨dropped, hdrop, hdropped, -⟩ :=
      exists_dropBlankLast_append (takeLine width (lineStart first rs)).1
    obtain ⟨front, stretches, hfilled, hlines, -⟩ := ih
    have hempty : dropBlankLast (takeLine width (lineStart first rs)).1 = [] :=
      List.isEmpty_iff.mp hline
    have htaken : (takeLine width (lineStart first rs)).1 = dropped := by
      rwa [hempty, List.nil_append] at hdrop
    have hparts : rs = start ++ (dropped ++ rest) := by
      rw [← htaken, takeLine_append]
      exact hrs
    refine ⟨start ++ (dropped ++ front), stretches, ?_, ?_, fun _ hnil => ?_⟩
    · rw [hparts]
      exact (hfilled.of_append hdropped).of_append hstartBlank
    · rw [fill, dif_neg hstart, if_pos hline]
      exact hlines
    · rw [List.append_eq_nil_iff, List.append_eq_nil_iff, ← htaken] at hnil
      exact absurd hnil.2.1 (takeLine_ne_nil width hstart)
  | case3 first rs hstart _ line rest hline ih =>
    obtain ⟨start, hrs, hstartBlank, hopens⟩ := exists_lineStart_append first rs
    obtain ⟨dropped, hdrop, hdropped, hsingle⟩ :=
      exists_dropBlankLast_append (takeLine width (lineStart first rs)).1
    obtain ⟨front, stretches, hfilled, hlines, hnext⟩ := ih
    have hne : line ≠ [] := fun hnil => hline (List.isEmpty_iff.mpr hnil)
    have hparts : rs = start ++ (line ++ (dropped ++ rest)) := by
      rw [← List.append_assoc line, ← hdrop, takeLine_append]
      exact hrs
    have hover : ∀ run ∈ rest.head?, width < (line ++ dropped ++ [run]).flatten.length := by
      intro run hrun
      obtain ⟨others, hothers⟩ := List.head?_eq_some_iff.mp hrun
      rw [← hdrop]
      exact lt_length_of_takeLine hothers
    have hfits := dropBlankLast_takeLine_fits hdrop hsingle hne
    refine ⟨start, ⟨line, dropped ++ front⟩ :: stretches, ?_, ?_,
      fun hfirst hnil q hq run hrun => ?_⟩
    · have hall := (hfilled.cons hne hdropped hfits hover (hnext rfl)).of_append hstartBlank
      rwa [List.append_nil, ← hparts] at hall
    · rw [fill, dif_neg hstart, if_neg hline, hlines]
      rfl
    · cases hq
      refine hopens hfirst hnil run ?_
      obtain ⟨more, hmore⟩ := List.head?_eq_some_iff.mp hrun
      rw [hparts, hnil]
      simp only at hmore
      rw [hmore]
      rfl

/-- Lines that are filled with runs, side by side; only blank runs are left out. -/
inductive Filling : List (List Char) → List (List Char) → Prop
  | nil : Filling [] []
  | blank {run : List Char} {rs lines : List (List Char)} (hrun : allBlank run = true)
      (hrs : Filling rs lines) : Filling (run :: rs) lines
  | line {line rs lines : List (List Char)} (hrs : Filling rs lines) :
      Filling (line ++ rs) (line.flatten :: lines)

lemma Filling.of_append {dropped rs lines : List (List Char)}
    (hdropped : ∀ run ∈ dropped, allBlank run = true) (h : Filling rs lines) :
    Filling (dropped ++ rs) lines := by
  induction dropped with
  | nil => exact h
  | cons run dropped ih =>
    rw [List.forall_mem_cons] at hdropped
    exact .blank hdropped.1 (ih hdropped.2)

lemma filling_flatMap_whole {stretches : List (Stretch (List Char))}
    (h : ∀ p ∈ stretches, ∀ run ∈ p.gap, allBlank run = true) :
    Filling (stretches.flatMap Stretch.whole) (stretches.map (fun p => p.line.flatten)) := by
  induction stretches with
  | nil => exact .nil
  | cons p stretches ih =>
    rw [List.forall_mem_cons] at h
    rw [List.flatMap_cons, Stretch.whole, List.append_assoc]
    exact .line ((ih h.2).of_append h.1)

lemma filling_fill (width : Nat) (first : Bool) (rs : List (List Char)) :
    Filling rs (fill width first rs) := by
  obtain ⟨front, stretches, hfilled, hlines, -⟩ := exists_filled_fill width first rs
  rw [hlines, hfilled.eq]
  exact (filling_flatMap_whole hfilled.gap_blank).of_append hfilled.front_blank

lemma wrap_ne_nil (width : Int) (s : List Char) : wrap width s ≠ [] := by
  rw [wrap]
  split
  · exact List.cons_ne_nil _ _
  · assumption

end DataContract.Text
