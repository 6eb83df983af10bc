/-
Texts without their blank ends.
-/
import DataContract.Text.Blank
import Mathlib.Data.List.DropRight
import Mathlib.Data.List.TakeWhile

namespace DataContract.Text

lemma trimLeft_isSuffix (s : List Char) : trimLeft s <:+ s :=
  List.dropWhile_suffix _

lemma trimRight_isPrefix (s : List Char) : trimRight s <+: s :=
  List.rdropWhile_prefix isBlank s

lemma trim_isInfix (s : List Char) : trim s <:+: s :=
  (trimRight_isPrefix _).isInfix.trans (trimLeft_isSuffix s).isInfix

/-- What is cut off at the end is blank. -/
lemma exists_blank_of_trimRight (s : List Char) :
    ∃ t, s = trimRight s ++ t ∧ ∀ c ∈ t, isBlank c = true := by
  refine ⟨(s.reverse.takeWhile isBlank).reverse, ?_, fun c hc => ?_⟩
  · rw [trimRight, ← List.reverse_append, List.takeWhile_append_dropWhile, List.reverse_reverse]
  · exact List.mem_takeWhile_imp (List.mem_reverse.mp hc)

/-- What is cut off at both ends is blank. -/
lemma exists_blank_of_trim (s : List Char) :
    ∃ front back, s = front ++ trim s ++ back ∧ (∀ c ∈ front, isBlank c = true) ∧
      ∀ c ∈ back, isBlank c = true := by
  obtain ⟨back, hright, hback⟩ := exists_blank_of_trimRight (trimLeft s)
  refine ⟨s.takeWhile isBlank, back, ?_, fun c hc => List.mem_takeWhile_imp hc, hback⟩
  rw [List.append_assoc, trim, ← hright, trimLeft, List.takeWhile_append_dropWhile]

lemma trimLeft_cons_of_blank {c : Char} (h : isBlank c = true) (s : List Char) :
    trimLeft (c :: s) = trimLeft s :=
  List.dropWhile_cons_of_pos h

lemma trimLeft_cons_of_not_blank {c : Char} (h : isBlank c = false) (s : List Char) :
    trimLeft (c :: s) = c :: s :=
  List.dropWhile_cons_of_neg (by simp [h])

lemma trimRight_append_of_not_blank {c : Char} (h : isBlank c = false) (s : List Char) :
    trimRight (s ++ [c]) = s ++ [c] :=
  List.rdropWhile_concat_neg isBlank s c (by simp [h])

/-- A text without blank ends stays as it is. -/
lemma trim_eq_self {s : List Char} (hhead : ∀ c ∈ s.head?, isBlank c = false)
    (hlast : ∀ c ∈ s.getLast?, isBlank c = false) : trim s = s := by
  have hleft : trimLeft s = s := by
    cases s with
    | nil => rfl
    | cons c rest => exact trimLeft_cons_of_not_blank (hhead c rfl) rest
  rw [trim, hleft]
  rcases List.eq_nil_or_concat s with rfl | ⟨front, c, rfl⟩
  · rfl
  · rw [List.concat_eq_append] at hlast ⊢
    exact trimRight_append_of_not_blank (hlast c (by simp)) front

@[simp]
lemma trimRight_trimRight (s : List Char) : trimRight (trimRight s) = trimRight s :=
  List.rdropWhile_idempotent isBlank s

lemma trimRight_eq_nil_iff {s : List Char} : trimRight s = [] ↔ allBlank s = true := by
  rw [allBlank, List.all_eq_true]
  exact List.rdropWhile_eq_nil_iff

/-- A text without its blank end does not end with a blank. -/
lemma not_blank_of_getLast?_trimRight {s : List Char} {c : Char}
    (h : c ∈ (trimRight s).getLast?) : isBlank c = false := by
  obtain ⟨hne, rfl⟩ := List.mem_getLast?_eq_getLast h
  exact Bool.eq_false_iff.mpr (List.rdropWhile_last_not isBlank s hne)

/-- A text without its blank start does not start with a blank. -/
lemma not_blank_of_head?_trim {s t : List Char} (ht : t <+: trim s) {c : Char} (hc : c ∈ t.head?) :
    isBlank c = false := by
  obtain ⟨rest, hrest⟩ := ht.trans (trimRight_isPrefix (trimLeft s))
  have hhead := List.head?_dropWhile_not isBlank s
  rw [← trimLeft, ← hrest, List.head?_append, Option.mem_def.mp hc] at hhead
  simpa using hhead

/-- A first character stays, unless all is blank. -/
lemma trimRight_cons (c : Char) (s : List Char) :
    trimRight (c :: s) = if allBlank (c :: s) then [] else c :: trimRight s := by
  split
  · rename_i hblank
    exact trimRight_eq_nil_iff.mpr hblank
  · rename_i hblank
    rw [trimRight, trimRight, List.reverse_cons, List.dropWhile_append]
    split
    · rename_i hempty
      have hs : s.all isBlank = true := by
        rw [← allBlank, ← trimRight_eq_nil_iff, trimRight, List.isEmpty_iff.mp hempty]
        rfl
      have hc : isBlank c = false := by
        rwa [allBlank, List.all_cons, hs, Bool.and_true, Bool.not_eq_true] at hblank
      rw [List.isEmpty_iff.mp hempty, List.dropWhile_cons_of_neg (by simp [hc])]
      rfl
    · rw [List.reverse_append]
      rfl

lemma trimRight_cons_of_not_blank {c : Char} (h : isBlank c = false) (s : List Char) :
    trimRight (c :: s) = c :: trimRight s := by
  rw [trimRight_cons, if_neg (by simp [allBlank, h])]

/-- What stands up to a character that is not blank stays. -/
lemma trimRight_append_cons {c : Char} (h : isBlank c = false) (s t : List Char) :
    trimRight (s ++ c :: t) = s ++ c :: trimRight t := by
  induction s with
  | nil => exact trimRight_cons_of_not_blank h t
  | cons d s ih =>
    rw [List.cons_append, trimRight_cons, ih, if_neg (by simp [allBlank, h]), List.cons_append]

lemma trimLeft_eq_nil_iff {s : List Char} : trimLeft s = [] ↔ allBlank s = true := by
  rw [trimLeft, allBlank, List.dropWhile_eq_nil_iff, List.all_eq_true]

/-- Blanks around a text without blank ends are cut off. -/
lemma trim_append_blank {left s right : List Char} (hleft : allBlank left = true)
    (hright : allBlank right = true) (hhead : ∀ c ∈ s.head?, isBlank c = false)
    (hlast : ∀ c ∈ s.getLast?, isBlank c = false) : trim (left ++ s ++ right) = s := by
  have hcut : trimLeft (left ++ (s ++ right)) = trimLeft (s ++ right) := by
    rw [allBlank, List.all_eq_true] at hleft
    exact List.dropWhile_append_of_pos hleft
  rw [trim, List.append_assoc, hcut]
  cases s with
  | nil =>
    rw [List.nil_append, trimLeft_eq_nil_iff.mpr hright]
    rfl
  | cons c rest =>
    rw [List.cons_append, trimLeft_cons_of_not_blank (hhead c rfl), ← List.cons_append]
    -- the last character is not blank, so only what stands behind it is cut
    obtain ⟨front, d, hs⟩ : ∃ front d, c :: rest = front ++ [d] :=
      ⟨_, _, (List.dropLast_append_getLast (List.cons_ne_nil c rest)).symm⟩
    rw [hs] at hlast ⊢
    rw [List.append_assoc, List.singleton_append, trimRight_append_cons (hlast d (by simp)),
      trimRight_eq_nil_iff.mpr hright]

end DataContract.Text
