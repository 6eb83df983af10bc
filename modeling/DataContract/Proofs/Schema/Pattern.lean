/-
The texts that patterns describe.

The regular expression of a pattern is matched from the start of a text, and
its end mark stands for the end of the text or for a line feed there.
-/
import DataContract.Proofs.Text.Occurrence
import DataContract.Schema.Basic

namespace DataContract.Pattern

open DataContract.Text

/-- A character of one class and after it any number of another one. -/
def Headed (first rest : Char → Bool) (s : List Char) : Prop :=
  ∃ c t, s = c :: t ∧ first c = true ∧ ∀ d ∈ t, rest d = true

/-- One or more digits. -/
def Digits (s : List Char) : Prop :=
  s ≠ [] ∧ ∀ c ∈ s, isDecimal c = true

/-- What the regular expression of a pattern describes before its end mark. -/
def Body : Pattern → List Char → Prop
  | .typeReference, s => Headed isNameStart isReferenceChar s
  | .version, s => ∃ major minor, s = major ++ '.' :: minor ∧ Digits major ∧ Digits minor
  | .typeName, s => Headed isNameStart isWord s

/-- The texts that match a pattern. -/
def Matches (p : Pattern) (s : String) : Prop :=
  ∃ b, p.Body b ∧ (s.toList = b ∨ s.toList = b ++ ['\n'])

/-! ### The classes of characters -/

lemma isHeaded_iff {first rest : Char → Bool} {s : List Char} :
    isHeaded first rest s = true ↔ Headed first rest s := by
  cases s with
  | nil => simp [isHeaded, Headed]
  | cons c t => simp [isHeaded, Headed]

lemma isAsciiWord_of_isNameStart {c : Char} (h : isNameStart c = true) :
    isAsciiWord c = true := by
  simp only [isNameStart, Bool.or_eq_true, beq_iff_eq] at h
  rcases h with h | rfl
  · simp [isAsciiWord, Char.isAlphanum, h]
  · decide

lemma isNameStart_lineFeed : isNameStart '\n' = false := by decide

lemma isWord_lineFeed : isWord '\n' = false := by decide +kernel

lemma isReferenceChar_lineFeed : isReferenceChar '\n' = false := by decide +kernel

lemma isDecimal_lineFeed : isDecimal '\n' = false := by decide +kernel

lemma isDecimal_point : isDecimal '.' = false := by decide +kernel

lemma Headed.notMem {first rest : Char → Bool} {s : List Char} (h : Headed first rest s)
    {c : Char} (hfirst : first c = false) (hrest : rest c = false) : c ∉ s := by
  obtain ⟨d, t, rfl, hd, ht⟩ := h
  rw [List.mem_cons]
  rintro (rfl | hmem)
  · rw [hfirst] at hd
    cases hd
  · have := ht _ hmem
    rw [hrest] at this
    cases this

lemma Digits.notMem {s : List Char} (h : Digits s) {c : Char} (hc : isDecimal c = false) :
    c ∉ s := by
  intro hmem
  have := h.2 c hmem
  rw [hc] at this
  cases this

/-! ### Matching -/

lemma isVersion_iff {s : List Char} : isVersion s = true ↔ Body .version s := by
  constructor
  · intro h
    rw [isVersion] at h
    split at h
    · rename_i major minor hpieces
      simp only [Bool.and_eq_true, Bool.not_eq_true', List.isEmpty_eq_false_iff,
        List.all_eq_true] at h
      obtain ⟨⟨⟨hmajor, hmajor'⟩, hminor⟩, hminor'⟩ := h
      exact ⟨major, minor, (pieces_eq_pair_iff.mp hpieces).1, ⟨hmajor, hmajor'⟩,
        ⟨hminor, hminor'⟩⟩
    · cases h
  · rintro ⟨major, minor, rfl, hmajor, hminor⟩
    have hpieces : pieces '.' (major ++ '.' :: minor) = [major, minor] :=
      pieces_eq_pair_iff.mpr
        ⟨rfl, hmajor.notMem isDecimal_point, hminor.notMem isDecimal_point⟩
    rw [isVersion, hpieces]
    simp only [Bool.and_eq_true, Bool.not_eq_true', List.isEmpty_eq_false_iff, List.all_eq_true]
    exact ⟨⟨hmajor, hminor.1⟩, hminor.2⟩

lemma Body.lineFeed_notMem {p : Pattern} {s : List Char} (h : p.Body s) : '\n' ∉ s := by
  cases p with
  | typeReference =>
    exact Headed.notMem h isNameStart_lineFeed isReferenceChar_lineFeed
  | typeName => exact Headed.notMem h isNameStart_lineFeed isWord_lineFeed
  | version =>
    obtain ⟨major, minor, rfl, hmajor, hminor⟩ := h
    have hpoint : ('\n' : Char) ≠ '.' := by decide
    simp [hpoint, hmajor.notMem isDecimal_lineFeed, hminor.notMem isDecimal_lineFeed]

lemma fits_eq_true_iff_body {p : Pattern} {s : String} :
    p.fits s = true ↔ p.Body (dropFinalLineFeed s.toList) := by
  cases p with
  | typeReference => exact isHeaded_iff
  | version => exact isVersion_iff
  | typeName => exact isHeaded_iff

/-- A text fits a pattern exactly if it matches its regular expression. -/
lemma fits_iff {p : Pattern} {s : String} : p.fits s = true ↔ p.Matches s := by
  rw [fits_eq_true_iff_body]
  constructor
  · intro h
    exact ⟨_, h, dropFinalLineFeed_cases s.toList⟩
  · rintro ⟨b, hb, hs | hs⟩
    · rw [hs, dropFinalLineFeed_of_notMem hb.lineFeed_notMem]
      exact hb
    · rw [hs, dropFinalLineFeed_append]
      exact hb

lemma Matches.ne_empty {s : String} (h : Pattern.typeReference.Matches s) : s ≠ "" := by
  rintro rfl
  obtain ⟨b, ⟨c, t, rfl, -⟩, hs | hs⟩ := h <;> simp at hs

/-- The name of a type holds only the characters of names, and a line feed at its end. -/
lemma Matches.notMem {s : String} (h : Pattern.typeName.Matches s) {c : Char}
    (hfirst : isNameStart c = false) (hrest : isWord c = false) (hc : c ≠ '\n') :
    c ∉ s.toList := by
  obtain ⟨b, hb, hs | hs⟩ := h
  · rw [hs]
    exact Headed.notMem hb hfirst hrest
  · rw [hs]
    simpa [hc] using Headed.notMem hb hfirst hrest

end DataContract.Pattern
