/-
Balanced braces.

The depth of a text is the number of braces that it opens and does not close.  A
text is balanced if its depth is zero and no start of it closes more braces than
it opens.  Texts that are balanced can be put one after another and between two
braces; whatever follows a balanced text is as deep as it would be without it.
-/
import Mathlib.Data.List.Infix
import Mathlib.Data.String.Basic
import Mathlib.Tactic.Common

namespace DataContract.Text

/-! ### Depth -/

/-- The number of braces that a text opens and does not close. -/
def braceDepth (s : List Char) : ℤ :=
  (s.count '\x7b' : ℤ) - s.count '\x7d'

lemma braceDepth_append (s t : List Char) :
    braceDepth (s ++ t) = braceDepth s + braceDepth t := by
  simp only [braceDepth, List.count_append]
  omega

/-- Whether a text has no braces. -/
def isBraceless (s : List Char) : Bool :=
  s.all (fun c => c != '\x7b' && c != '\x7d')

lemma braceDepth_of_isBraceless {s : List Char} (h : isBraceless s = true) : braceDepth s = 0 := by
  have hnone : ∀ c ∈ s, c ≠ '\x7b' ∧ c ≠ '\x7d' := by simpa [isBraceless] using h
  have hopen : s.count '\x7b' = 0 := List.count_eq_zero.mpr (fun hc => (hnone _ hc).1 rfl)
  have hclose : s.count '\x7d' = 0 := List.count_eq_zero.mpr (fun hc => (hnone _ hc).2 rfl)
  rw [braceDepth, hopen, hclose]
  rfl

/-! ### Balance -/

/-- A text closes exactly the braces that it opens, and none before it is open. -/
structure Balanced (s : String) : Prop where
  nonneg : ∀ p, p <+: s.toList → 0 ≤ braceDepth p
  total : braceDepth s.toList = 0

namespace Balanced

/-- A text without braces is balanced. -/
lemma of_isBraceless {s : String} (h : isBraceless s.toList = true) : Balanced s := by
  refine ⟨fun p hp => ?_, braceDepth_of_isBraceless h⟩
  have hall : isBraceless p = true := by
    rw [isBraceless, List.all_eq_true] at h ⊢
    exact fun c hc => h c (hp.subset hc)
  exact (braceDepth_of_isBraceless hall).ge

-- a literal is its list of characters, and to look through that list is cheaper than to decode it
lemma plain {l : List Char} (h : isBraceless l = true) : Balanced (String.ofList l) :=
  of_isBraceless (by rw [String.toList_ofList]; exact h)

-- most texts have no braces, and that is seen at once
instance (s : String) : Decidable (Balanced s) :=
  if h : isBraceless s.toList = true then isTrue (of_isBraceless h)
  else
    decidable_of_iff ((∀ p ∈ s.toList.inits, 0 ≤ braceDepth p) ∧ braceDepth s.toList = 0)
      ⟨fun h => ⟨fun p hp => h.1 p ((List.mem_inits p _).mpr hp), h.2⟩,
        fun h => ⟨fun p hp => h.nonneg p ((List.mem_inits p _).mp hp), h.total⟩⟩

/-- One balanced text after another is balanced. -/
lemma append {s t : String} (hs : Balanced s) (ht : Balanced t) : Balanced (s ++ t) := by
  constructor
  · intro p hp
    rw [String.toList_append] at hp
    -- a start of both texts is a start of the first one, or the first one and a start of the second
    rcases List.prefix_or_prefix_of_prefix hp (List.prefix_append s.toList t.toList) with h | h
    · exact hs.nonneg p h
    · obtain ⟨q, rfl⟩ := h
      rw [braceDepth_append, hs.total, Int.zero_add]
      exact ht.nonneg q ((List.prefix_append_right_inj _).mp hp)
  · rw [String.toList_append, braceDepth_append, hs.total, ht.total, Int.add_zero]

/-- A balanced text between two braces is balanced. -/
lemma braced {s : String} (hs : Balanced s) : Balanced ("\x7b" ++ s ++ "\x7d") := by
  have hopen : braceDepth ['\x7b'] = 1 := by decide
  have hclose : braceDepth ['\x7d'] = -1 := by decide
  have hlist : ("\x7b" ++ s ++ "\x7d").toList = ['\x7b'] ++ (s.toList ++ ['\x7d']) := by simp
  have htotal : braceDepth ("\x7b" ++ s ++ "\x7d").toList = 0 := by
    rw [hlist, braceDepth_append, braceDepth_append, hopen, hclose, hs.total]
    rfl
  refine ⟨fun p hp => ?_, htotal⟩
  rw [hlist, List.singleton_append, List.prefix_cons_iff] at hp
  obtain rfl | ⟨q, rfl, hq⟩ := hp
  · exact le_rfl
  · rw [← List.singleton_append, braceDepth_append, hopen]
    -- after the opening brace only the last one can close more than the text does
    rcases List.prefix_concat_iff.mp hq with rfl | hq
    · rw [braceDepth_append, hs.total, hclose]
      decide
    · have := hs.nonneg q hq
      omega

lemma join {l : List String} (h : ∀ s ∈ l, Balanced s) : Balanced (String.join l) := by
  induction l with
  | nil => exact plain rfl
  | cons s rest ih =>
    rw [List.forall_mem_cons] at h
    rw [String.join_cons]
    exact h.1.append (ih h.2)

lemma intercalate {sep : String} (hsep : Balanced sep) {l : List String}
    (h : ∀ s ∈ l, Balanced s) : Balanced (sep.intercalate l) := by
  induction l with
  | nil =>
    rw [String.intercalate_nil]
    exact plain rfl
  | cons s rest ih =>
    rw [List.forall_mem_cons] at h
    cases rest with
    | nil =>
      rw [String.intercalate_singleton]
      exact h.1
    | cons t rest =>
      rw [String.intercalate_cons_cons]
      exact (h.1.append hsep).append (ih h.2)

end Balanced

end DataContract.Text
