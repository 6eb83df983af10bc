/-
Classes of characters that have nothing in common.

The tables of characters are lists of ranges, so two classes are apart if every
range of the one ends before or starts after every range of the other.  No word
character is blank, and a line break is always blank.
-/
import DataContract.Text.Blank
import DataContract.Text.Word
import Mathlib.Tactic.Common

namespace DataContract.Text

lemma inRanges_iff {ranges : List CodeRange} {c : Char} :
    inRanges ranges c = true ↔ ∃ r ∈ ranges, r.first ≤ c.toNat ∧ c.toNat ≤ r.last := by
  simp [inRanges, CodeRange.holds]

/-- One range ends before the other one starts, or the other way round. -/
def CodeRange.Apart (r s : CodeRange) : Prop := r.last < s.first ∨ s.last < r.first

instance (r s : CodeRange) : Decidable (r.Apart s) :=
  inferInstanceAs (Decidable (_ ∨ _))

/-- A character does not lie in ranges that are apart. -/
lemma inRanges_eq_false {as bs : List CodeRange} (h : ∀ a ∈ as, ∀ b ∈ bs, a.Apart b) {c : Char}
    (hc : inRanges as c = true) : inRanges bs c = false := by
  obtain ⟨a, ha, hfirst, hlast⟩ := inRanges_iff.mp hc
  rw [Bool.eq_false_iff]
  intro hb
  obtain ⟨b, hb, hfirst', hlast'⟩ := inRanges_iff.mp hb
  rcases h a ha b hb with hapart | hapart
  · omega
  · omega

/-- The word characters of ASCII. -/
def asciiWordRanges : List CodeRange := [⟨0x30, 0x39⟩, ⟨0x41, 0x5a⟩, ⟨0x5f, 0x5f⟩, ⟨0x61, 0x7a⟩]

lemma isAsciiWord_iff {c : Char} : isAsciiWord c = true ↔ inRanges asciiWordRanges c = true := by
  have hunderscore : c = '_' ↔ c.toNat = 0x5f := by
    rw [← Char.toNat_inj]
    rfl
  unfold isAsciiWord Char.isAlphanum Char.isAlpha Char.isUpper Char.isLower Char.isDigit
  simp only [Bool.or_eq_true, Bool.and_eq_true, decide_eq_true_eq, beq_iff_eq, hunderscore,
    inRanges_iff, asciiWordRanges, List.mem_cons, List.not_mem_nil, or_false, exists_eq_or_imp,
    exists_eq_left, ge_iff_le, UInt32.le_iff_toNat_le]
  change ((65 ≤ c.toNat ∧ c.toNat ≤ 90 ∨ 97 ≤ c.toNat ∧ c.toNat ≤ 122) ∨
    48 ≤ c.toNat ∧ c.toNat ≤ 57) ∨ _ ↔ _
  omega

lemma toNat_lt_of_isAsciiWord {c : Char} (h : isAsciiWord c = true) : c.toNat < 0x80 := by
  obtain ⟨r, hr, -, hlast⟩ := inRanges_iff.mp (isAsciiWord_iff.mp h)
  have hranges : ∀ r ∈ asciiWordRanges, r.last < 0x80 := by decide
  exact Nat.lt_of_le_of_lt hlast (hranges r hr)

/-- Below the tables, the word characters are those of ASCII. -/
lemma isWord_of_lt {c : Char} (h : c.toNat < 0x80) : isWord c = isAsciiWord c := by
  have hascii : inRanges [⟨0, 0x7f⟩] c = true :=
    inRanges_iff.mpr ⟨_, List.mem_singleton_self _, Nat.zero_le _, Nat.le_of_lt_succ h⟩
  have hrest : inRanges wordRanges c = false := inRanges_eq_false (by decide +kernel) hascii
  rw [isWord, hrest, Bool.or_false]

/-- No blank character is a word character. -/
lemma isWord_of_isBlank {c : Char} (h : isBlank c = true) : isWord c = false := by
  have hascii : inRanges asciiWordRanges c = false := inRanges_eq_false (by decide) h
  have hrest : inRanges wordRanges c = false := inRanges_eq_false (by decide +kernel) h
  rw [isWord, hrest, Bool.or_false, Bool.eq_false_iff, ne_eq, isAsciiWord_iff, hascii]
  exact Bool.false_ne_true

/-! ### Lines -/

/-- The characters that end a line. -/
def lineBreakRanges : List CodeRange :=
  [⟨0x000a, 0x000d⟩, ⟨0x001c, 0x001e⟩, ⟨0x0085, 0x0085⟩, ⟨0x2028, 0x2029⟩]

/-- Whether a character ends a line. -/
def isLineBreak (c : Char) : Bool :=
  inRanges lineBreakRanges c

lemma isBlank_of_isLineBreak {c : Char} (h : isLineBreak c = true) : isBlank c = true := by
  have hwithin : ∀ r ∈ lineBreakRanges, ∃ s ∈ blankRanges, s.first ≤ r.first ∧ r.last ≤ s.last := by
    decide
  obtain ⟨r, hr, hfirst, hlast⟩ := inRanges_iff.mp h
  obtain ⟨s, hs, hfirst', hlast'⟩ := hwithin r hr
  exact inRanges_iff.mpr ⟨s, hs, by omega, by omega⟩

/-- A text that stays on one line. -/
def OneLine (s : String) : Prop := ∀ c ∈ s.toList, isLineBreak c = false

lemma oneLine_ofList {l : List Char} (h : l.all (fun c => !isLineBreak c) = true) :
    OneLine (String.ofList l) := by
  simpa [OneLine] using h

lemma oneLine_append {s t : String} : OneLine (s ++ t) ↔ OneLine s ∧ OneLine t := by
  simp [OneLine, or_imp, forall_and]

end DataContract.Text
