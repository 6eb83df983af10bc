/-
How often a text closes a comment.

The two characters `*/` close a comment wherever they stand.  Between two texts
they arise only if one ends with the star and the other starts with the slash, so
a text that is cut at blanks holds them as often as its pieces do, and filling
lines neither makes nor loses one.
-/
import DataContract.Proofs.Text.Blank
import DataContract.Proofs.Text.Lowercase
import DataContract.Proofs.Text.Substitution
import DataContract.Proofs.Text.Wrap
import Mathlib.Algebra.Ring.Nat
import Mathlib.Data.List.Infix

namespace DataContract.Text

/-- The number of places at which `*/` stands in a text. -/
def closers (s : List Char) : Nat :=
  s.tails.countP ("*/".toList.isPrefixOf ·)

/-- The border between two texts does not make a `*/`. -/
def Parted (s t : List Char) : Prop :=
  s.getLast? ≠ some '*' ∨ t.head? ≠ some '/'

@[simp]
lemma closers_nil : closers [] = 0 := by
  decide

lemma closers_cons (c : Char) (s : List Char) :
    closers (c :: s) = closers s + if c = '*' ∧ s.head? = some '/' then 1 else 0 := by
  have hplace : "*/".toList.isPrefixOf (c :: s) = true ↔ c = '*' ∧ s.head? = some '/' := by
    cases s with
    | nil => simp
    | cons d s => simp [List.isPrefixOf, eq_comm (a := '*'), eq_comm (a := '/')]
  rw [closers, closers, List.tails_cons, List.countP_cons, if_congr hplace rfl rfl]

lemma closers_eq_zero_iff {s : List Char} : closers s = 0 ↔ ¬ "*/".toList <:+: s := by
  simp only [closers, List.countP_eq_zero, List.mem_tails, List.isPrefixOf_iff_prefix,
    List.infix_iff_prefix_suffix, not_exists, not_and]
  exact ⟨fun h t hprefix hsuffix => h t hsuffix hprefix,
    fun h t hsuffix hprefix => h t hprefix hsuffix⟩

lemma closers_of_isInfix {s t : List Char} (h : t <:+: s) (hs : closers s = 0) : closers t = 0 := by
  rw [closers_eq_zero_iff] at hs ⊢
  exact fun hclose => hs (hclose.trans h)

/-! ### Texts side by side -/

lemma closers_append {s t : List Char} (h : Parted s t) :
    closers (s ++ t) = closers s + closers t := by
  induction s with
  | nil => simp
  | cons c s ih =>
    -- Only the last character of the first text stands at the border.
    cases s with
    | nil =>
      have hborder : ¬ (c = '*' ∧ t.head? = some '/') := by
        rintro ⟨rfl, hhead⟩
        simp [Parted, hhead] at h
      simp [closers_cons, hborder]
    | cons d s =>
      have hparted : Parted (d :: s) t := by simpa [Parted] using h
      have hhead : ((d :: s) ++ t).head? = (d :: s).head? := rfl
      rw [List.cons_append, closers_cons, ih hparted, hhead, closers_cons c]
      omega

lemma parted_cons {c : Char} (h : c ≠ '/') (s t : List Char) : Parted s (c :: t) :=
  .inr (by simpa using h)

/-- A character that is none of the two parts the texts around it. -/
lemma closers_append_cons {c : Char} (hstar : c ≠ '*') (hslash : c ≠ '/') (s t : List Char) :
    closers (s ++ c :: t) = closers s + closers t := by
  rw [closers_append (parted_cons hslash s t), closers_cons]
  simp [hstar]

/-- A text without a star adds nothing in front of another. -/
lemma closers_append_of_star_notMem {s : List Char} (h : '*' ∉ s) (t : List Char) :
    closers (s ++ t) = closers t := by
  have hs : closers s = 0 := closers_eq_zero_iff.mpr (fun hclose => h (hclose.subset (by simp)))
  have hparted : Parted s t := .inl (fun hlast => h (List.mem_of_getLast? hlast))
  rw [closers_append hparted, hs, Nat.zero_add]

/-- A text without a slash adds nothing after another. -/
lemma closers_append_of_slash_notMem {t : List Char} (h : '/' ∉ t) (s : List Char) :
    closers (s ++ t) = closers s := by
  have ht : closers t = 0 := closers_eq_zero_iff.mpr (fun hclose => h (hclose.subset (by simp)))
  have hparted : Parted s t := .inr (fun hhead => h (List.mem_of_mem_head? hhead))
  rw [closers_append hparted, ht, Nat.add_zero]

lemma closers_flatten {rs : List (List Char)} (hne : ∀ r ∈ rs, r ≠ []) (h : rs.IsChain Parted) :
    closers rs.flatten = (rs.map closers).sum := by
  induction rs with
  | nil => rfl
  | cons r rs ih =>
    rw [List.forall_mem_cons] at hne
    obtain ⟨-, hne⟩ := hne
    rw [List.flatten_cons, List.map_cons, List.sum_cons, ← ih hne h.tail]
    refine closers_append ?_
    cases rs with
    | nil => exact .inr (by simp)
    | cons r' rs =>
      obtain ⟨hparted, -⟩ := List.isChain_cons_cons.mp h
      obtain ⟨c, r', rfl⟩ := List.exists_cons_of_ne_nil (hne r' (by simp))
      exact hparted

/-! ### Blank ends and lines -/

lemma slash_notMem_of_allBlank {s : List Char} (h : allBlank s = true) : '/' ∉ s := by
  intro hmem
  have hblank := List.all_eq_true.mp h '/' hmem
  revert hblank
  decide

lemma closers_trimRight (s : List Char) : closers (trimRight s) = closers s := by
  obtain ⟨t, hs, ht⟩ := exists_blank_of_trimRight s
  have hslash : '/' ∉ t := slash_notMem_of_allBlank (List.all_eq_true.mpr ht)
  nth_rewrite 2 [hs]
  rw [closers_append_of_slash_notMem hslash]

/-- Characters that are none of the two can be changed into spaces. -/
lemma closers_map {f : Char → Char} (h : ∀ c, f c = c ∨ (c ≠ '*' ∧ c ≠ '/' ∧ f c = ' '))
    (s : List Char) : closers (s.map f) = closers s := by
  have hstar : ∀ c, f c = '*' ↔ c = '*' := by grind
  have hslash : ∀ c, f c = '/' ↔ c = '/' := by grind
  induction s with
  | nil => rfl
  | cons c s ih =>
    rw [List.map_cons, closers_cons, closers_cons, ih]
    cases s <;> simp [hstar, hslash]

lemma head?_expandTabs_eq_slash_iff (column : Nat) (s : List Char) :
    (expandTabs column s).head? = some '/' ↔ s.head? = some '/' := by
  cases s with
  | nil => rfl
  | cons c s =>
    by_cases hc : c = '\t'
    · obtain ⟨n, column', hexpand⟩ := expandTabs_tab column s
      simp [hc, hexpand, List.replicate_succ]
    · obtain ⟨column', hexpand⟩ := expandTabs_cons_of_ne hc column s
      rw [hexpand]
      rfl

lemma closers_expandTabs (column : Nat) (s : List Char) :
    closers (expandTabs column s) = closers s := by
  induction s generalizing column with
  | nil => rfl
  | cons c s ih =>
    by_cases hc : c = '\t'
    · obtain ⟨n, column', hexpand⟩ := expandTabs_tab column s
      have hspaces : '*' ∉ List.replicate (n + 1) ' ' := by simp
      rw [hc, hexpand, closers_append_of_star_notMem hspaces, ih, closers_cons]
      simp
    · obtain ⟨column', hexpand⟩ := expandTabs_cons_of_ne hc column s
      simp only [hexpand, closers_cons, ih, head?_expandTabs_eq_slash_iff]

lemma closers_spaced (s : List Char) : closers (spaced s) = closers s := by
  rw [spaced, closers_map, closers_expandTabs]
  intro c
  by_cases hc : isSeparator c = true
  · refine .inr ⟨?_, ?_, if_pos hc⟩
    · rintro rfl
      revert hc
      decide
    · rintro rfl
      revert hc
      decide
  · exact .inl (if_neg hc)

/-- Every line of a filling takes its runs as they are. -/
lemma Filling.sum_closers {rs lines : List (List Char)} (h : Filling rs lines)
    (hne : ∀ r ∈ rs, r ≠ []) (hchain : rs.IsChain Parted) :
    (lines.map closers).sum = (rs.map closers).sum := by
  induction h with
  | nil => rfl
  | blank hrun _ ih =>
    rw [List.forall_mem_cons] at hne
    have hzero := closers_append_of_slash_notMem (slash_notMem_of_allBlank hrun) []
    rw [List.nil_append, closers_nil] at hzero
    rw [ih hne.2 hchain.tail, List.map_cons, List.sum_cons, hzero, Nat.zero_add]
  | line _ ih =>
    rw [List.forall_mem_append] at hne
    rw [List.map_cons, List.sum_cons, List.map_append, List.sum_append,
      closers_flatten hne.1 hchain.left_of_append, ih hne.2 hchain.right_of_append]

lemma sum_closers_wrap (width : Int) (s : List Char) :
    ((wrap width s).map closers).sum = closers s := by
  -- At a border between two runs stands a space, which is none of the two characters.
  have hchain : (runs s).IsChain Parted := by
    refine (isChain_runs s).imp (fun r r' hborder => ?_)
    by_cases hlast : r.getLast? = some ' '
    · exact .inl (by simp [hlast])
    · have hhead : r'.head? = some ' ' := not_not.mp (mt hborder.mpr hlast)
      exact .inr (by simp [hhead])
  have hne : ∀ r ∈ runs s, r ≠ [] := fun r hr => ne_nil_of_mem_runs hr
  have hlines := (filling_fill (max width 1).toNat true (runs s)).sum_closers hne hchain
  rw [← closers_flatten hne hchain, flatten_runs, closers_spaced] at hlines
  rw [wrap]
  split
  · rename_i hempty
    rw [hempty] at hlines
    exact hlines
  · exact hlines

/-! ### Replacements -/

/-- A text that starts with something else than a slash and does not end with a star. -/
def Fenced (s : List Char) : Prop :=
  (∃ c t, s = c :: t ∧ c ≠ '/') ∧ s.getLast? ≠ some '*'

/-- In a text without `*/` the rule makes none, neither in its replacements nor around them. -/
def Rule.Harmless (rule : Rule) : Prop :=
  ∀ s new rest, rule s = some (new, rest) → closers s = 0 →
    rest <:+ s ∧ closers new = 0 ∧ Fenced new

lemma Rule.Harmless.substituteFuel {rule : Rule} (h : rule.Harmless) {fuel : Nat} {s : List Char}
    (hs : closers s = 0) :
    closers (substituteFuel rule fuel s) = 0 ∧
      ((Text.substituteFuel rule fuel s).head? = some '/' → s.head? = some '/') := by
  -- The second part carries the induction: a star that is copied meets no new slash.
  induction fuel generalizing s with
  | zero => exact ⟨hs, id⟩
  | succ fuel ih =>
    cases s with
    | nil => exact ⟨hs, id⟩
    | cons c s =>
      cases hrule : rule (c :: s) with
      | none =>
        rw [closers_cons, Nat.add_eq_zero_iff] at hs
        obtain ⟨hclosers, hborder⟩ := hs
        obtain ⟨htail, hhead⟩ := ih hclosers
        have hnone : ¬ (c = '*' ∧ s.head? = some '/') := by simpa using hborder
        simp only [Text.substituteFuel, hrule, closers_cons, htail, Nat.zero_add]
        refine ⟨if_neg (fun hc => hnone ⟨hc.1, hhead hc.2⟩), id⟩
      | some hit =>
        obtain ⟨new, rest⟩ := hit
        obtain ⟨hrest, hnew, ⟨d, t, rfl, hd⟩, hlast⟩ := h _ _ _ hrule hs
        obtain ⟨htail, -⟩ := ih (closers_of_isInfix hrest.isInfix hs)
        simp only [Text.substituteFuel, hrule]
        rw [closers_append (.inl hlast), hnew, htail]
        exact ⟨rfl, fun hslash => absurd (by simpa using hslash) hd⟩

lemma closers_substituteAll {rules : List Rule} (h : ∀ rule ∈ rules, rule.Harmless)
    {s : List Char} (hs : closers s = 0) : closers (substituteAll rules s) = 0 := by
  induction rules generalizing s with
  | nil => exact hs
  | cons rule rules ih =>
    rw [List.forall_mem_cons] at h
    exact ih h.2 (h.1.substituteFuel hs).1

lemma closers_lower_append {c : Char} {s : List Char} (h : closers (c :: s) = 0) :
    closers (lower c ++ s) = 0 := by
  rcases lower_eq_self_or_le c with hself | hle
  · rw [hself]
    exact h
  · -- What a capital becomes lies after the star in the order of characters.
    have hstar : '*' ∉ lower c := fun hmem => absurd (hle '*' hmem) (by decide)
    rw [closers_append_of_star_notMem hstar]
    exact closers_of_isInfix (List.suffix_cons c s).isInfix h

end DataContract.Text
