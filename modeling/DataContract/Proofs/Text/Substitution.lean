/-
What a pass of a rule does to a text.

A pass goes over the text from left to right: where the rule matches, its
replacement is written, and elsewhere a character is copied.  The relation
`Rule.Rewrites` says this without fuel, and it is what proofs about a pass go by.

Often a pass has to be shown to change something.  Then it helps if every match
lowers the number of characters of some class: a pass leaves a text as it is
exactly if the rule matches nowhere in it, and so do several passes one after
another.
-/
import DataContract.Proofs.Text.Occurrence

namespace DataContract.Text

namespace Rule

/-- A match takes at least one character. -/
def Consumes (rule : Rule) : Prop :=
  ∀ s r rest, rule s = some (r, rest) → rest.length < s.length

/-- One text becomes another by copied characters and replacements, from left to right. -/
inductive Rewrites (rule : Rule) : List Char → List Char → Prop
  | nil : Rewrites rule [] []
  | copy {c : Char} {s t : List Char} (hc : rule (c :: s) = none) (hs : Rewrites rule s t) :
      Rewrites rule (c :: s) (c :: t)
  | replace {s r rest t : List Char} (hs : rule s = some (r, rest))
      (hrest : Rewrites rule rest t) : Rewrites rule s (r ++ t)

lemma rewrites_substituteFuel {rule : Rule} (h : rule.Consumes) {fuel : Nat} {s : List Char}
    (hs : s.length ≤ fuel) : rule.Rewrites s (substituteFuel rule fuel s) := by
  induction fuel generalizing s with
  | zero =>
    rw [List.length_eq_zero_iff.mp (Nat.le_zero.mp hs)]
    exact .nil
  | succ fuel ih =>
    cases s with
    | nil => exact .nil
    | cons c s =>
      rw [substituteFuel]
      cases hrule : rule (c :: s) with
      | none => exact .copy hrule (ih (Nat.le_of_succ_le_succ hs))
      | some hit =>
        obtain ⟨r, rest⟩ := hit
        have hlt := h _ _ _ hrule
        simp only [List.length_cons] at hs hlt
        exact .replace hrule (ih (by omega))

/-- A pass rewrites a text; its length is fuel enough. -/
lemma rewrites_substitute {rule : Rule} (h : rule.Consumes) (s : List Char) :
    rule.Rewrites s (substitute rule s) :=
  rewrites_substituteFuel h (Nat.le_refl _)

/-- Two texts that one text becomes are the same. -/
lemma Rewrites.unique {rule : Rule} (h : rule.Consumes) {s t u : List Char}
    (ht : rule.Rewrites s t) (hu : rule.Rewrites s u) : t = u := by
  have hnil : rule [] = none := by
    cases hrule : rule [] with
    | none => rfl
    | some hit => exact absurd (h _ _ _ hrule) (Nat.not_lt_zero _)
  induction ht generalizing u with
  | nil =>
    cases hu with
    | nil => rfl
    | replace hs _ => rw [hnil] at hs; cases hs
  | copy hc _ ih =>
    cases hu with
    | copy _ hs => rw [ih hs]
    | replace hs _ => rw [hc] at hs; cases hs
  | replace hs _ ih =>
    cases hu with
    | nil => rw [hnil] at hs; cases hs
    | copy hc _ => rw [hc] at hs; cases hs
    | replace hs' hrest =>
      rw [hs] at hs'
      cases hs'
      rw [ih hrest]

/-- A match at the start of a text is replaced, and the pass goes on behind it. -/
lemma substitute_of_some {rule : Rule} (h : rule.Consumes) {s r rest : List Char}
    (hs : rule s = some (r, rest)) : substitute rule s = r ++ substitute rule rest :=
  (rewrites_substitute h s).unique h (.replace hs (rewrites_substitute h rest))

/-! ### Places of matches -/

/-- The rule matches nowhere in a text. -/
def Misses (rule : Rule) (s : List Char) : Prop :=
  ∀ t, t <:+ s → rule t = none

lemma misses_cons {rule : Rule} {c : Char} {s : List Char} :
    rule.Misses (c :: s) ↔ rule (c :: s) = none ∧ rule.Misses s := by
  simp only [Misses, List.suffix_cons_iff, or_imp, forall_and, forall_eq]

lemma substituteFuel_of_misses {rule : Rule} {s : List Char} (h : rule.Misses s) (fuel : Nat) :
    substituteFuel rule fuel s = s := by
  induction fuel generalizing s with
  | zero => rfl
  | succ fuel ih =>
    cases s with
    | nil => rfl
    | cons c s =>
      obtain ⟨hc, hs⟩ := misses_cons.mp h
      simp only [substituteFuel, hc, ih hs]

lemma substitute_of_misses {rule : Rule} {s : List Char} (h : rule.Misses s) :
    substitute rule s = s :=
  substituteFuel_of_misses h _

/-- The first character is copied if the rule does not match there. -/
lemma substitute_cons {rule : Rule} {c : Char} {s : List Char} (h : rule (c :: s) = none) :
    substitute rule (c :: s) = c :: substitute rule s := by
  simp only [substitute, List.length_cons, substituteFuel, h]

lemma misses_literal_iff {old new s : List Char} :
    (Rule.literal old new).Misses s ↔ ¬ old <:+: s := by
  simp only [Misses, Rule.literal, Option.map_eq_none_iff, dropPrefix?_eq_none_iff]
  rw [List.infix_iff_prefix_suffix]
  simp only [not_exists, not_and]
  exact ⟨fun h t hpre hsuf => h t hsuf hpre, fun h t hsuf hpre => h t hpre hsuf⟩

lemma consumes_literal {old : List Char} (h : old ≠ []) (new : List Char) :
    (Rule.literal old new).Consumes := by
  intro s r rest hs
  obtain ⟨t, ht, heq⟩ := Option.map_eq_some_iff.mp hs
  obtain rfl : t = rest := congrArg Prod.snd heq
  rw [dropPrefix?_eq_some_iff.mp ht, List.length_append]
  have hlength : 0 < old.length := List.length_pos_iff.mpr h
  omega

/-! ### Counting characters -/

/-- What a match takes and what it writes compare in the number of characters of a class. -/
def Compares (rel : Nat → Nat → Prop) (p : Char → Bool) (rule : Rule) : Prop :=
  ∀ s r rest, rule s = some (r, rest) → ∃ m, s = m ++ rest ∧ rel (r.countP p) (m.countP p)

/-- A match leaves fewer characters of a class. -/
abbrev Lowers (p : Char → Bool) (rule : Rule) : Prop := rule.Compares (· < ·) p

/-- A match leaves no more characters of a class. -/
abbrev NeverRaises (p : Char → Bool) (rule : Rule) : Prop := rule.Compares (· ≤ ·) p

lemma Lowers.neverRaises {p : Char → Bool} {rule : Rule} (h : rule.Lowers p) :
    rule.NeverRaises p := by
  intro s r rest hs
  obtain ⟨m, hm, hlt⟩ := h s r rest hs
  exact ⟨m, hm, Nat.le_of_lt hlt⟩

lemma Lowers.consumes {p : Char → Bool} {rule : Rule} (h : rule.Lowers p) : rule.Consumes := by
  intro s r rest hs
  obtain ⟨m, rfl, hlt⟩ := h s r rest hs
  have hle : m.countP p ≤ m.length := List.countP_le_length
  simp only [List.length_append]
  omega

lemma Rewrites.countP_le {p : Char → Bool} {rule : Rule} (h : rule.NeverRaises p)
    {s t : List Char} (hst : rule.Rewrites s t) : t.countP p ≤ s.countP p := by
  induction hst with
  | nil => exact Nat.le_refl _
  | copy _ _ ih =>
    rw [List.countP_cons, List.countP_cons]
    omega
  | replace hs _ ih =>
    obtain ⟨m, rfl, hle⟩ := h _ _ _ hs
    rw [List.countP_append, List.countP_append]
    omega

/-- If every match lowers a count, then the count is lower after a pass that has found a match. -/
lemma Rewrites.misses_or_countP_lt {p : Char → Bool} {rule : Rule} (h : rule.Lowers p)
    {s t : List Char} (hst : rule.Rewrites s t) : rule.Misses s ∨ t.countP p < s.countP p := by
  induction hst with
  | nil =>
    left
    intro u hu
    rw [List.suffix_nil.mp hu]
    cases hnil : rule [] with
    | none => rfl
    | some hit => exact absurd (h.consumes _ _ _ hnil) (Nat.not_lt_zero _)
  | copy hc _ ih =>
    rcases ih with hmisses | hlt
    · exact .inl (misses_cons.mpr ⟨hc, hmisses⟩)
    · right
      rw [List.countP_cons, List.countP_cons]
      omega
  | replace hs hrest _ =>
    right
    have hle := hrest.countP_le h.neverRaises
    obtain ⟨m, rfl, hlt⟩ := h _ _ _ hs
    rw [List.countP_append, List.countP_append]
    omega

end Rule

/-! ### Several passes -/

/-- The text after passes of several rules, in order. -/
def substituteAll (rules : List Rule) (s : List Char) : List Char :=
  rules.foldl (fun s rule => substitute rule s) s

lemma substituteAll_cons (rule : Rule) (rules : List Rule) (s : List Char) :
    substituteAll (rule :: rules) s = substituteAll rules (substitute rule s) := rfl

lemma countP_substituteAll_le {p : Char → Bool} {rules : List Rule}
    (hrules : ∀ rule ∈ rules, rule.Consumes ∧ rule.NeverRaises p) (s : List Char) :
    (substituteAll rules s).countP p ≤ s.countP p := by
  induction rules generalizing s with
  | nil => exact Nat.le_refl _
  | cons rule rules ih =>
    rw [List.forall_mem_cons] at hrules
    obtain ⟨⟨hconsumes, hraises⟩, hrest⟩ := hrules
    have hpass := (Rule.rewrites_substitute hconsumes s).countP_le hraises
    exact Nat.le_trans (ih hrest (substitute rule s)) hpass

/-- If every rule lowers one count, then the passes leave a text as it is exactly if no rule matches
in it: after a first match the count stays below what it was. -/
lemma substituteAll_eq_self_iff {p : Char → Bool} {rules : List Rule}
    (hrules : ∀ rule ∈ rules, rule.Lowers p) {s : List Char} :
    substituteAll rules s = s ↔ ∀ rule ∈ rules, rule.Misses s := by
  induction rules with
  | nil => simp [substituteAll]
  | cons rule rules ih =>
    rw [List.forall_mem_cons] at hrules ⊢
    obtain ⟨hrule, hrest⟩ := hrules
    rw [substituteAll_cons]
    constructor
    · intro hself
      have hpass := Rule.rewrites_substitute hrule.consumes s
      rcases hpass.misses_or_countP_lt hrule with hmisses | hlt
      · rw [Rule.substitute_of_misses hmisses] at hself
        exact ⟨hmisses, (ih hrest).mp hself⟩
      · -- The passes that are left cannot raise the count again.
        have hle := countP_substituteAll_le
          (fun r hr => ⟨(hrest r hr).consumes, (hrest r hr).neverRaises⟩) (substitute rule s)
        rw [hself] at hle
        omega
    · rintro ⟨hmisses, hothers⟩
      rw [Rule.substitute_of_misses hmisses]
      exact (ih hrest).mpr hothers

end DataContract.Text
