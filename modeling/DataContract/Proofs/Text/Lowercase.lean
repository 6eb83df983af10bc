/-
What the lower-case form of a character can be.

A character is its own lower-case form, or the form has no character before the
small letters of the Latin alphabet.
-/
import DataContract.Text.Lowercase
import Mathlib.Tactic.Common

namespace DataContract.Text

lemma toNat_ofNat {n : Nat} (h : n.isValidChar) : (Char.ofNat n).toNat = n := by
  rw [Char.ofNat, dif_pos h]
  rfl

lemma toNat_toLower {c : Char} (h : 0x41 ≤ c.toNat ∧ c.toNat ≤ 0x5a) :
    c.toLower.toNat = c.toNat + 32 := by
  have hcapital : c.val ≥ 'A'.val ∧ c.val ≤ 'Z'.val := by
    rw [ge_iff_le, UInt32.le_iff_toNat_le, UInt32.le_iff_toNat_le]
    exact h
  have hmod : c.toLower.toNat = (c.toNat + 32) % 2 ^ 32 := by
    unfold Char.toLower
    rw [dif_pos hcapital]
    exact UInt32.toNat_add c.val 32
  omega

lemma toLower_eq_self {c : Char} (h : ¬ (0x41 ≤ c.toNat ∧ c.toNat ≤ 0x5a)) : c.toLower = c := by
  unfold Char.toLower
  rw [dif_neg]
  rw [ge_iff_le, UInt32.le_iff_toNat_le, UInt32.le_iff_toNat_le]
  exact h

/-- What a run makes of its characters. -/
lemma LowerRun.le_toNat_of_holds {r : LowerRun} (hr : r ∈ lowerRuns) {c : Char}
    (h : r.holds c = true) : 0x61 ≤ (Char.ofNat ((c.toNat : Int) + r.shift).toNat).toNat := by
  have htable : ∀ r ∈ lowerRuns, 0x61 ≤ r.first + r.shift ∧
      (r.last + r.shift < 0xd800 ∨ 0xdfff < r.first + r.shift ∧ r.last + r.shift < 0x110000) := by
    decide +kernel
  simp only [holds, Bool.and_eq_true, decide_eq_true_eq] at h
  obtain ⟨⟨hfirst, hlast⟩, -⟩ := h
  obtain ⟨hletter, hvalid⟩ := htable r hr
  rw [toNat_ofNat]
  · omega
  · rcases hvalid with hlow | ⟨hhigh, hlimit⟩
    · exact .inl (by omega)
    · exact .inr ⟨by omega, by omega⟩

lemma lower_eq_self_or_le (c : Char) : lower c = [c] ∨ ∀ d ∈ lower c, 0x61 ≤ d.toNat := by
  rw [lower]
  split
  · by_cases hcapital : 0x41 ≤ c.toNat ∧ c.toNat ≤ 0x5a
    · have htoNat := toNat_toLower hcapital
      refine .inr (List.forall_mem_singleton.mpr ?_)
      omega
    · exact .inl (by rw [toLower_eq_self hcapital])
  · split
    · exact .inr (by simp)
    · split
      · rename_i r hfind
        have hholds : r.holds c = true := by simpa using List.find?_some hfind
        refine .inr (List.forall_mem_singleton.mpr ?_)
        exact LowerRun.le_toNat_of_holds (List.mem_of_find?_eq_some hfind) hholds
      · exact .inl rfl

end DataContract.Text
