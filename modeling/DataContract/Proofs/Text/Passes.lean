/-
Passes of rules over a text that is put together from pieces.

A rule that matches nowhere in a piece, whatever follows the piece, copies it, and
a rule that takes exactly the piece replaces it.  If every rule does the one or the
other with every piece, then several passes over the whole text do to each piece
what they would do to it alone.
-/
import DataContract.Proofs.Text.Substitution
import Mathlib.Data.List.Forall2

namespace DataContract.Text

namespace Rule

/-! ### Pieces that are copied -/

/-- The rule matches nowhere in a text, whatever follows it. -/
def Skips (rule : Rule) (s : List Char) : Prop :=
  ∀ t, t <:+ s → t ≠ [] → ∀ rest, rule (t ++ rest) = none

lemma skips_cons {rule : Rule} {c : Char} {s : List Char} :
    rule.Skips (c :: s) ↔ (∀ rest, rule (c :: (s ++ rest)) = none) ∧ rule.Skips s := by
  constructor
  · intro h
    refine ⟨h (c :: s) (List.suffix_refl _) (List.cons_ne_nil c s), fun t ht => ?_⟩
    exact h t (ht.trans (List.suffix_cons c s))
  · rintro ⟨hc, hs⟩ t ht hne rest
    rcases List.suffix_cons_iff.mp ht with rfl | ht
    · exact hc rest
    · exact hs t ht hne rest

lemma substitute_append_of_skips {rule : Rule} {s : List Char} (h : rule.Skips s)
    (t : List Char) : substitute rule (s ++ t) = s ++ substitute rule t := by
  induction s with
  | nil => rfl
  | cons c s ih =>
    obtain ⟨hc, hs⟩ := skips_cons.mp h
    rw [List.cons_append, substitute_cons (hc t), ih hs, List.cons_append]

lemma Skips.append {rule : Rule} {s t : List Char} (hs : rule.Skips s) (ht : rule.Skips t) :
    rule.Skips (s ++ t) := by
  induction s with
  | nil => exact ht
  | cons c s ih =>
    obtain ⟨hc, hs⟩ := skips_cons.mp hs
    rw [List.cons_append, skips_cons]
    refine ⟨fun rest => ?_, ih hs⟩
    rw [List.append_assoc]
    exact hc (t ++ rest)

/-- The rule matches only where a character stands. -/
def OpensAt (c : Char) (rule : Rule) : Prop :=
  ∀ d s, d ≠ c → rule (d :: s) = none

lemma OpensAt.skips {c : Char} {rule : Rule} (h : rule.OpensAt c) {s : List Char} (hs : c ∉ s) :
    rule.Skips s := by
  induction s with
  | nil =>
    intro t ht hne
    exact absurd (List.suffix_nil.mp ht) hne
  | cons d s ih =>
    simp only [List.mem_cons, not_or] at hs
    exact skips_cons.mpr ⟨fun rest => h d _ (Ne.symm hs.1), ih hs.2⟩

/-- The rule matches only texts that start with an opening. -/
def OpensWith (opening : List Char) (rule : Rule) : Prop :=
  ∀ s, ¬ opening <+: s → rule s = none

lemma OpensWith.opensAt {c : Char} {opening : List Char} {rule : Rule}
    (h : rule.OpensWith opening) (hc : opening.head? = some c) : rule.OpensAt c := by
  intro d s hd
  refine h _ (fun hstart => hd ?_)
  obtain ⟨opening', rfl⟩ := List.head?_eq_some_iff.mp hc
  exact (List.cons_prefix_cons.mp hstart).1.symm

/-- A text that has the first character of all matches only at its start is skipped if it is not
matched there. -/
lemma OpensAt.skips_of_tail {c : Char} {rule : Rule} (h : rule.OpensAt c) {s : List Char}
    (hs : c ∉ s.tail) (hnone : ∀ rest, rule (s ++ rest) = none) : rule.Skips s := by
  cases s with
  | nil => exact h.skips hs
  | cons d s => exact skips_cons.mpr ⟨hnone, h.skips hs⟩

/-- A mark that differs from an opening is skipped, if it has the first character of the opening
only once. -/
lemma OpensWith.skips {c : Char} {opening mark : List Char} {rule : Rule}
    (h : rule.OpensWith opening) (hc : opening.head? = some c) (hmark : c ∉ mark.tail)
    (hopening : ¬ opening <+: mark) (hshort : ¬ mark <+: opening) : rule.Skips mark := by
  refine (h.opensAt hc).skips_of_tail hmark (fun rest => h _ (fun hstart => ?_))
  rcases List.prefix_or_prefix_of_prefix hstart (List.prefix_append mark rest) with hpre | hpre
  · exact hopening hpre
  · exact hshort hpre

lemma exists_opensWith_of_mem {openings : List (List Char)} {rules : List Rule}
    (h : List.Forall₂ OpensWith openings rules) {rule : Rule} (hrule : rule ∈ rules) :
    ∃ opening ∈ openings, rule.OpensWith opening := by
  induction h with
  | nil => cases hrule
  | cons hopens _ ih =>
    rcases List.mem_cons.mp hrule with rfl | hrule
    · exact ⟨_, List.mem_cons_self, hopens⟩
    · obtain ⟨opening, hmem, hopening⟩ := ih hrule
      exact ⟨opening, List.mem_cons_of_mem _ hmem, hopening⟩

/-! ### Occurrences -/

lemma opensWith_literal (old new : List Char) : (Rule.literal old new).OpensWith old := by
  intro s hs
  rw [Rule.literal, dropPrefix?_eq_none_iff.mpr hs]
  rfl

lemma dropPrefix?_of_skips {old new t : List Char} {c : Char}
    (h : (Rule.literal old new).Skips (c :: t)) (rest : List Char) :
    dropPrefix? old (c :: (t ++ rest)) = none :=
  Option.map_eq_none_iff.mp ((skips_cons.mp h).1 rest)

end Rule

/-- A text that starts nowhere in what stands before it is found there first. -/
lemma splitFirst?_of_skips {pat new s : List Char} (h : (Rule.literal pat new).Skips s)
    (rest : List Char) : splitFirst? pat (s ++ (pat ++ rest)) = some (s, rest) := by
  induction s with
  | nil =>
    have hstart := dropPrefix?_eq_some_iff.mpr (rfl : pat ++ rest = _)
    rw [List.nil_append]
    cases htext : pat ++ rest with
    | nil =>
      obtain ⟨rfl, rfl⟩ := List.append_eq_nil_iff.mp htext
      rfl
    | cons c t => rw [splitFirst?, ← htext, hstart]
  | cons c s ih =>
    rw [List.cons_append, splitFirst?, Rule.dropPrefix?_of_skips h, ih (Rule.skips_cons.mp h).2]
    rfl

lemma Rule.Skips.not_isInfix {pat new s : List Char} (hne : pat ≠ [])
    (h : (Rule.literal pat new).Skips s) : ¬ pat <:+: s := by
  induction s with
  | nil => simpa using hne
  | cons c s ih =>
    obtain ⟨hc, hs⟩ := Rule.skips_cons.mp h
    rw [List.infix_cons_iff, not_or, ← dropPrefix?_eq_none_iff]
    have hstart := Rule.dropPrefix?_of_skips h []
    rw [List.append_nil] at hstart
    exact ⟨hstart, ih hs⟩

/-- A text that occurs at one place only is found there last. -/
lemma beforeLast?_of_skips {pat new s t : List Char} (hne : pat ≠ [])
    (hs : (Rule.literal pat new).Skips s) (ht : (Rule.literal pat new).Skips (pat.tail ++ t)) :
    beforeLast? pat (s ++ (pat ++ t)) = some s := by
  cases hlast : beforeLast? pat (s ++ (pat ++ t)) with
  | none => exact absurd ⟨s, t, List.append_assoc s pat t⟩ (beforeLast?_eq_none_iff.mp hlast)
  | some before =>
    obtain ⟨after, heq⟩ := exists_of_beforeLast? hlast
    -- Another place would be one behind the first character of this one, or one before it.
    rcases List.append_eq_append_iff.mp heq with ⟨u, rfl, hu⟩ | ⟨u, rfl, hu⟩
    · cases u with
      | nil => rw [List.append_nil]
      | cons c u =>
        have htail := congrArg List.tail hu
        rw [List.tail_append_of_ne_nil hne, List.cons_append, List.tail_cons] at htail
        have hinfix : pat <:+: pat.tail ++ t :=
          ⟨u, after, (List.append_assoc u pat after).trans htail.symm⟩
        exact absurd hinfix (ht.not_isInfix hne)
    · cases u with
      | nil => rw [List.append_nil]
      | cons c u =>
        have hnone := hs (c :: u) (List.suffix_append before _) (List.cons_ne_nil c u) (pat ++ t)
        rw [← hu, Rule.literal, dropPrefix?_eq_some_iff.mpr rfl] at hnone
        cases hnone

/-! ### Passes over pieces of a text -/

/-- One piece of a text becomes another by passes of several rules, whatever stands around it: each
rule finds nothing in it or takes all of it. -/
inductive Becomes : List Rule → List Char → List Char → Prop
  | done (s : List Char) : Becomes [] s s
  | skip {rule : Rule} {rules : List Rule} {s t : List Char} (hrule : rule.Skips s)
      (hrules : Becomes rules s t) : Becomes (rule :: rules) s t
  | take {rule : Rule} {rules : List Rule} {s r t : List Char}
      (hrule : ∀ rest, rule (s ++ rest) = some (r, rest)) (hrules : Becomes rules r t) :
      Becomes (rule :: rules) s t

lemma becomes_self {rules : List Rule} {s : List Char} (h : ∀ rule ∈ rules, rule.Skips s) :
    Becomes rules s s := by
  induction rules with
  | nil => exact .done s
  | cons rule rules ih =>
    rw [List.forall_mem_cons] at h
    exact .skip h.1 (ih h.2)

/-- A piece that one rule takes, and no rule before it, becomes what that rule writes, if no later
rule finds anything there. -/
lemma becomes_of_take {before after : List Rule} {rule : Rule} {s r : List Char}
    (hbefore : ∀ earlier ∈ before, earlier.Skips s)
    (hrule : ∀ rest, rule (s ++ rest) = some (r, rest)) (hafter : ∀ later ∈ after, later.Skips r) :
    Becomes (before ++ rule :: after) s r := by
  induction before with
  | nil => exact .take hrule (becomes_self hafter)
  | cons earlier before ih =>
    rw [List.forall_mem_cons] at hbefore
    exact .skip hbefore.1 (ih hbefore.2)

/-- A pass over a piece that is followed by others, and what the other rules make of it. -/
lemma Becomes.exists_substitute {rule : Rule} {rules : List Rule} (hconsumes : rule.Consumes)
    {s u : List Char} (h : Becomes (rule :: rules) s u) :
    ∃ t, (∀ rest, substitute rule (s ++ rest) = t ++ substitute rule rest) ∧ Becomes rules t u := by
  cases h with
  | skip hrule hrules => exact ⟨s, Rule.substitute_append_of_skips hrule, hrules⟩
  | take hrule hrules =>
    exact ⟨_, fun rest => Rule.substitute_of_some hconsumes (hrule rest), hrules⟩

lemma exists_substitute_flatten {rule : Rule} {rules : List Rule} (hconsumes : rule.Consumes)
    {ss us : List (List Char)} (h : List.Forall₂ (Becomes (rule :: rules)) ss us) :
    ∃ ts, substitute rule ss.flatten = ts.flatten ∧ List.Forall₂ (Becomes rules) ts us := by
  induction h with
  | nil => exact ⟨[], rfl, .nil⟩
  | cons hs _ ih =>
    obtain ⟨t, hpass, ht⟩ := hs.exists_substitute hconsumes
    obtain ⟨ts, hts, hrest⟩ := ih
    refine ⟨t :: ts, ?_, .cons ht hrest⟩
    rw [List.flatten_cons, hpass, hts, List.flatten_cons]

/-- If every piece of a text becomes another one on its own, then so does the text. -/
lemma substituteAll_flatten {rules : List Rule} (hconsumes : ∀ rule ∈ rules, rule.Consumes)
    {ss us : List (List Char)} (h : List.Forall₂ (Becomes rules) ss us) :
    substituteAll rules ss.flatten = us.flatten := by
  induction rules generalizing ss with
  | nil =>
    have heq : ss = us := by
      rw [← List.forall₂_eq_eq_eq]
      exact h.imp (fun s u hsu => by cases hsu; rfl)
    rw [heq]
    rfl
  | cons rule rules ih =>
    rw [List.forall_mem_cons] at hconsumes
    obtain ⟨ts, hpass, hts⟩ := exists_substitute_flatten hconsumes.1 h
    rw [substituteAll_cons, hpass, ih hconsumes.2 hts]

/-- A text that all rules skip stays as it is. -/
lemma substituteAll_of_skips {rules : List Rule} {s : List Char}
    (h : ∀ rule ∈ rules, rule.Skips s) : substituteAll rules s = s := by
  induction rules with
  | nil => rfl
  | cons rule rules ih =>
    rw [List.forall_mem_cons] at h
    have hpass := Rule.substitute_append_of_skips h.1 []
    rw [List.append_nil] at hpass
    rw [substituteAll_cons, hpass]
    exact (congrArg _ (List.append_nil s)).trans (ih h.2)

end DataContract.Text
