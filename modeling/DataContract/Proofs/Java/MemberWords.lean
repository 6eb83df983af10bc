/-
Which letters the rule for members lowers.

Where a row of two or more capitalised words ends, and neither a word character
nor an opening parenthesis follows, the rule lowers one letter: the first of the
last four words of the row, or of the whole row if it is shorter.  A pass of the
rule goes from left to right, and the proof follows it with one invariant: no
row that the rule could take starts before the place that the pass has reached
and ends behind it.
-/
import DataContract.Proofs.Java.Initializers
import Mathlib.Order.Bounds.Basic

namespace DataContract.Java

open DataContract.Text

/-! ### Rows of capitalised words -/

/-- The text from `i` to `e` is a row of `n` capitalised words. -/
structure WordsBetween (s : List Char) (n i e : Nat) : Prop where
  le : i ≤ e
  le_length : e ≤ s.length
  words : ∃ parts : List (List Char), parts.length = n ∧ (s.take e).drop i = parts.flatten ∧
    ∀ w ∈ parts, IsCapitalised w

lemma IsCapitalised.isWord_of_mem {w : List Char} (h : IsCapitalised w) :
    ∀ c ∈ w, isWord c = true := by
  obtain ⟨c, rest, rfl, hc, -, hrest⟩ := h
  exact List.forall_mem_cons.mpr
    ⟨isWord_of_isCapital hc, fun d hd => isWord_of_isSmall (hrest d hd)⟩

/-- Of two texts that end in the same way, the last capitalised word is the same. -/
lemma IsCapitalised.eq_of_suffix {u v : List Char} (hu : IsCapitalised u) (hv : IsCapitalised v)
    (h : u <:+ v) : u = v := by
  obtain ⟨c, rest, rfl, hc, -⟩ := hu
  obtain ⟨d, tail, rfl, -, -, htail⟩ := hv
  rcases List.suffix_cons_iff.mp h with heq | hsuffix
  · exact heq
  · -- the capital would be one of the small letters
    have hsmall := htail c (hsuffix.subset List.mem_cons_self)
    rw [isSmall_of_isCapital hc] at hsmall
    cases hsmall

lemma IsCapitalised.last_eq {front front' u v : List Char} (hu : IsCapitalised u)
    (hv : IsCapitalised v) (h : front ++ u = front' ++ v) : u = v := by
  rcases List.suffix_or_suffix_of_suffix ⟨front, h⟩ (List.suffix_append front' v) with huv | hvu
  · exact hu.eq_of_suffix hv huv
  · exact (hv.eq_of_suffix hu hvu).symm

/-- Of two rows at the end of a text, the one with fewer words is the end of the other. -/
lemma parts_suffix {parts others : List (List Char)} (hparts : ∀ w ∈ parts, IsCapitalised w)
    (hothers : ∀ w ∈ others, IsCapitalised w) {front front' : List Char}
    (h : front ++ parts.flatten = front' ++ others.flatten) (hle : parts.length ≤ others.length) :
    parts <:+ others := by
  induction parts using List.reverseRecOn generalizing others with
  | nil => exact List.nil_suffix
  | append_singleton parts last ih =>
    rcases List.eq_nil_or_concat others with rfl | ⟨rest, final, rfl⟩
    · simp at hle
    · simp only [List.concat_eq_append, List.flatten_append, List.flatten_singleton,
        ← List.append_assoc] at h hothers hle ⊢
      have hlast : last = final :=
        (hparts last (by simp)).last_eq (hothers final (by simp)) h
      subst hlast
      rw [List.append_cancel_right_eq] at h
      have hsuffix := ih (fun w hw => hparts w (by simp [hw]))
        (fun w hw => hothers w (by simp [hw])) h (by simpa using hle)
      obtain ⟨before, rfl⟩ := hsuffix
      exact ⟨before, by simp⟩

lemma length_le_length_flatten {parts : List (List Char)} (h : ∀ w ∈ parts, IsCapitalised w) :
    parts.length ≤ parts.flatten.length := by
  induction parts with
  | nil => exact Nat.le_refl _
  | cons w parts ih =>
    rw [List.forall_mem_cons] at h
    obtain ⟨c, rest, rfl, -⟩ := h.1
    have hrest := ih h.2
    simp only [List.length_cons, List.flatten_cons, List.length_append]
    omega

namespace WordsBetween

variable {s : List Char} {n m i j e : Nat}

/-- A row from a place is what stands there before the rest of the text. -/
lemma iff_drop : WordsBetween s n i e ↔
    ∃ parts : List (List Char), parts.length = n ∧ (∀ w ∈ parts, IsCapitalised w) ∧
      s.drop i = parts.flatten ++ s.drop e ∧ e = i + parts.flatten.length ∧ e ≤ s.length := by
  constructor
  · rintro ⟨hle, hlength, parts, hn, hparts, hcapitalised⟩
    have hdrop : s.drop i = (s.take e).drop i ++ s.drop e := by
      rw [← List.drop_append_of_le_length (by simp; omega), List.take_append_drop]
    refine ⟨parts, hn, hcapitalised, by rw [hdrop, hparts], ?_, hlength⟩
    rw [← hparts, List.length_drop, List.length_take]
    omega
  · rintro ⟨parts, hn, hcapitalised, hdrop, rfl, hlength⟩
    refine ⟨Nat.le_add_right _ _, hlength, parts, hn, ?_, hcapitalised⟩
    rw [List.drop_take, hdrop, Nat.add_sub_cancel_left, List.take_left]

lemma nothing (he : e ≤ s.length) : WordsBetween s 0 e e :=
  ⟨Nat.le_refl _, he, [], rfl, by simp, by simp⟩

/-- Of two rows with one end, the one with more words starts earlier. -/
lemma start_add_le (h : WordsBetween s n i e) (h' : WordsBetween s m j e) (hle : n ≤ m) :
    j + (m - n) ≤ i := by
  obtain ⟨parts, rfl, hparts, hcapitalised⟩ := h.words
  obtain ⟨others, rfl, hothers, hcapitalised'⟩ := h'.words
  have hsplit : (s.take e).take i ++ parts.flatten = (s.take e).take j ++ others.flatten := by
    rw [← hparts, ← hothers, List.take_append_drop, List.take_append_drop]
  obtain ⟨before, rfl⟩ := parts_suffix hcapitalised hcapitalised' hsplit hle
  have hbefore := length_le_length_flatten (fun w hw => hcapitalised' w (List.mem_append_left _ hw))
  have hlength := congrArg List.length hparts
  have hlength' := congrArg List.length hothers
  have := h.le
  have := h.le_length
  have := h'.le
  simp only [List.length_drop, List.length_take, List.flatten_append,
    List.length_append] at hlength hlength' ⊢
  omega

lemma start_unique (h : WordsBetween s n i e) (h' : WordsBetween s n j e) : i = j := by
  have := h.start_add_le h' (Nat.le_refl n)
  have := h'.start_add_le h (Nat.le_refl n)
  omega

lemma count_le (h : WordsBetween s n i e) : i + n ≤ e := by
  have := (nothing h.le_length).start_add_le h (Nat.zero_le n)
  omega

/-- A row holds shorter rows with the same end. -/
lemma exists_fewer (h : WordsBetween s n i e) (hm : m ≤ n) : ∃ j, WordsBetween s m j e := by
  obtain ⟨parts, rfl, hparts, hcapitalised⟩ := h.words
  have hsplit : parts.flatten =
      (parts.take (parts.length - m)).flatten ++ (parts.drop (parts.length - m)).flatten := by
    rw [← List.flatten_append, List.take_append_drop]
  have hlength := congrArg List.length (hparts.trans hsplit)
  have := h.le
  have := h.le_length
  simp only [List.length_drop, List.length_take, List.length_append] at hlength
  refine ⟨i + (parts.take (parts.length - m)).flatten.length, by omega, h.le_length,
    parts.drop (parts.length - m), ?_, ?_, ?_⟩
  · rw [List.length_drop]
    omega
  · rw [← List.drop_drop, hparts, hsplit, List.drop_left]
  · exact fun w hw => hcapitalised w (List.mem_of_mem_drop hw)

/-- A row has word characters only. -/
lemma isWord_of_lt (h : WordsBetween s n i e) {p : Nat} (hi : i ≤ p) (he : p < e) {c : Char}
    (hc : s[p]? = some c) : isWord c = true := by
  obtain ⟨parts, -, hparts, hcapitalised⟩ := h.words
  have hget : parts.flatten[p - i]? = some c := by
    rw [← hparts, List.getElem?_drop, List.getElem?_take_of_lt (by omega), ← hc]
    congr 1
    omega
  obtain ⟨w, hw, hcw⟩ := List.mem_flatten.mp (List.mem_of_getElem? hget)
  exact (hcapitalised w hw).isWord_of_mem c hcw

/-- A row starts with a capital. -/
lemma exists_capital (h : WordsBetween s n i e) (hn : 0 < n) :
    ∃ c, s[i]? = some c ∧ isCapital c = true := by
  obtain ⟨parts, rfl, hparts, hcapitalised⟩ := h.words
  obtain ⟨w, rest, rfl⟩ := List.exists_cons_of_length_pos hn
  obtain ⟨c, tail, rfl, hc, -⟩ := hcapitalised w List.mem_cons_self
  have hlt := h.count_le
  refine ⟨c, ?_, hc⟩
  have hget : ((s.take e).drop i)[0]? = some c := by
    rw [hparts]
    rfl
  rwa [List.getElem?_drop, Nat.add_zero, List.getElem?_take_of_lt (by simp at hlt; omega)] at hget

end WordsBetween

/-- At a place there is the end of the text, or neither a word character nor a parenthesis that
makes a call. -/
def Uncalled (s : List Char) (e : Nat) : Prop :=
  ∀ c, s[e]? = some c → isWord c = false ∧ c ≠ '('

lemma endsUncalled_drop_iff {s : List Char} {e : Nat} :
    endsUncalled (s.drop e) = true ↔ Uncalled s e := by
  have hhead : (s.drop e).head? = s[e]? := List.head?_drop
  cases hdrop : s.drop e with
  | nil =>
    rw [hdrop, List.head?_nil] at hhead
    simp [Uncalled, ← hhead, endsUncalled]
  | cons c rest =>
    rw [hdrop, List.head?_cons] at hhead
    simp [Uncalled, ← hhead, endsUncalled]

/-! ### What the rule takes -/

variable {s : List Char}

/-- At a place the rule takes the row of words from there to another place. -/
lemma exists_wordsBetween_of_rule {p : Nat} {r rest : List Char}
    (h : memberWordRule (s.drop p) = some (r, rest)) :
    ∃ n e, 2 ≤ n ∧ n ≤ 4 ∧ WordsBetween s n p e ∧ Uncalled s e ∧ rest = s.drop e ∧
      r.length = e - p ∧ ∃ c tail, s.drop p = c :: tail ++ s.drop e ∧ r = c.toLower :: tail := by
  obtain ⟨parts, htwo, hfour, hparts, hs, hrest, rfl⟩ := memberWordRule_eq_some_iff.mp h
  have hrest' : s.drop (p + parts.flatten.length) = rest := by
    rw [← List.drop_drop, hs, List.drop_left]
  have hshort := length_le_length_flatten hparts
  have hlength := congrArg List.length hs
  simp only [List.length_drop, List.length_append] at hlength
  have hwords : WordsBetween s parts.length p (p + parts.flatten.length) :=
    WordsBetween.iff_drop.mpr ⟨parts, rfl, hparts, by rw [hrest', hs], rfl, by omega⟩
  obtain ⟨w, others, rfl⟩ := List.exists_cons_of_length_pos (by omega : 0 < parts.length)
  obtain ⟨c, tail, rfl, hc, -⟩ := hparts w List.mem_cons_self
  have hflatten : ((c :: tail) :: others).flatten = c :: (tail ++ others.flatten) := rfl
  have huncalled : Uncalled s (p + ((c :: tail) :: others).flatten.length) := by
    rw [← endsUncalled_drop_iff, hrest']
    exact hrest
  refine ⟨_, _, htwo, hfour, hwords, huncalled, hrest'.symm, ?_, c, tail ++ others.flatten, ?_, ?_⟩
  · rw [hflatten, identifier_of_isCapital hc]
    simp
  · rw [hrest', hs, hflatten]
  · rw [hflatten, identifier_of_isCapital hc]

lemma rule_ne_none {p n e : Nat} (htwo : 2 ≤ n) (hfour : n ≤ 4) (h : WordsBetween s n p e)
    (he : Uncalled s e) : memberWordRule (s.drop p) ≠ none := by
  obtain ⟨parts, rfl, hcapitalised, hs, -⟩ := WordsBetween.iff_drop.mp h
  have hrest := endsUncalled_drop_iff.mpr he
  rw [memberWordRule_eq_some_iff.mpr ⟨parts, htwo, hfour, hcapitalised, hs, hrest, rfl⟩]
  exact Option.some_ne_none _

/-- No row of words goes on over an uncalled end. -/
lemma WordsBetween.end_le {n i e e' : Nat} (h : WordsBetween s n i e) (hi : i ≤ e')
    (he' : Uncalled s e') : e ≤ e' := by
  by_contra hlt
  have hlength := h.le_length
  have hget : s[e']? = some s[e'] := List.getElem?_eq_getElem (by omega)
  have hword := h.isWord_of_lt hi (by omega) hget
  rw [(he' _ hget).1] at hword
  cases hword

/-! ### Rows that name a member -/

/-- A longest row of two or more words ends at `e`, uncalled, and the last four of its words start
at `i`, or all of them if there are fewer. -/
structure MemberRow (s : List Char) (i e : Nat) : Prop where
  uncalled : Uncalled s e
  words : ∃ n, 2 ≤ n ∧ IsGreatest {n | ∃ j, WordsBetween s n j e} n ∧
    WordsBetween s (min n 4) i e

/-- Where a row ends there is a longest one. -/
lemma exists_isGreatest {n i e : Nat} (h : WordsBetween s n i e) :
    ∃ m, n ≤ m ∧ IsGreatest {n | ∃ j, WordsBetween s n j e} m := by
  -- no row has more words than there are letters before its end
  induction hroom : e - n using Nat.strongRecOn generalizing n i with
  | ind room ih =>
    by_cases hmore : ∃ m, n < m ∧ ∃ j, WordsBetween s m j e
    · obtain ⟨m, hlt, j, hm⟩ := hmore
      have hcount := hm.count_le
      obtain ⟨k, hle, hgreatest⟩ := ih (e - m) (by omega) hm rfl
      exact ⟨k, by omega, hgreatest⟩
    · refine ⟨n, Nat.le_refl n, ⟨i, h⟩, fun m hm => ?_⟩
      by_contra hlt
      exact hmore ⟨m, by omega, hm⟩

namespace MemberRow

variable {i j e e' : Nat}

lemma start_unique (h : MemberRow s i e) (h' : MemberRow s j e) : i = j := by
  obtain ⟨n, -, hn, hwords⟩ := h.words
  obtain ⟨m, -, hm, hwords'⟩ := h'.words
  rw [hn.unique hm] at hwords
  exact hwords.start_unique hwords'

lemma start_lt (h : MemberRow s i e) : i < e := by
  obtain ⟨n, htwo, -, hwords⟩ := h.words
  have := hwords.count_le
  omega

lemma exists_capital (h : MemberRow s i e) : ∃ c, s[i]? = some c ∧ isCapital c = true := by
  obtain ⟨n, htwo, -, hwords⟩ := h.words
  exact hwords.exists_capital (by omega)

/-- A row ends where the run of word characters ends that it starts in. -/
lemma end_eq (h : MemberRow s i e) (hi : i < j) (hj : j ≤ s.length)
    (hrun : ∀ p c, i ≤ p → p < j → s[p]? = some c → isWord c = true)
    (hend : ∀ c, s[j]? = some c → isWord c = false) : e = j := by
  have hstart := h.start_lt
  obtain ⟨n, -, -, hwords⟩ := h.words
  have hlength := hwords.le_length
  rcases Nat.lt_trichotomy e j with hlt | heq | hgt
  · -- the row would end before a word character
    have hget : s[e]? = some s[e] := List.getElem?_eq_getElem (by omega)
    have hword := hrun e _ (by omega) hlt hget
    rw [(h.uncalled _ hget).1] at hword
    cases hword
  · exact heq
  · have hget : s[j]? = some s[j] := List.getElem?_eq_getElem (by omega)
    have hword := hwords.isWord_of_lt (by omega) hgt hget
    rw [hend _ hget] at hword
    cases hword

/-- Two rows that overlap are the same. -/
lemma eq_of_overlap (h : MemberRow s i e) (h' : MemberRow s j e') (hij : i ≤ j) (hje : j < e) :
    i = j ∧ e = e' := by
  obtain ⟨n, -, -, hwords⟩ := h.words
  obtain ⟨m, -, -, hwords'⟩ := h'.words
  have hle := hwords'.end_le (Nat.le_of_lt hje) h.uncalled
  have hle' := hwords.end_le (by have := hwords'.le; omega) h'.uncalled
  obtain rfl : e = e' := Nat.le_antisymm hle' hle
  exact ⟨h.start_unique h', rfl⟩

end MemberRow

/-- A member starts at a place. -/
def IsMemberStart (s : List Char) (i : Nat) : Prop :=
  ∃ e, MemberRow s i e

/-! ### A pass -/

/-- No row of words that the rule could take lies across a place. -/
def Unbroken (s : List Char) (p : Nat) : Prop :=
  ∀ n i e, 2 ≤ n → n ≤ 4 → WordsBetween s n i e → Uncalled s e → i < p → e ≤ p

lemma Unbroken.succ {p : Nat} (h : Unbroken s p) (hrule : memberWordRule (s.drop p) = none) :
    Unbroken s (p + 1) := by
  intro n i e htwo hfour hwords he hi
  rcases Nat.lt_succ_iff_lt_or_eq.mp hi with hlt | rfl
  · exact Nat.le_succ_of_le (h n i e htwo hfour hwords he hlt)
  · exact absurd hrule (rule_ne_none htwo hfour hwords he)

lemma Uncalled.unbroken {e : Nat} (h : Uncalled s e) : Unbroken s e :=
  fun _ _ _ _ _ hwords _ hi => hwords.end_le (Nat.le_of_lt hi) h

/-- Where the rule takes a row that no other lies across, the row names a member. -/
lemma memberRow_of_unbroken {n p e : Nat} (hp : Unbroken s p) (htwo : 2 ≤ n) (hfour : n ≤ 4)
    (h : WordsBetween s n p e) (he : Uncalled s e) : MemberRow s p e := by
  obtain ⟨m, hle, hgreatest⟩ := exists_isGreatest h
  have hmin : min m 4 = n := by
    by_contra hne
    -- with one word more the rule would take a row from a place before `p`
    obtain ⟨j, hj⟩ := hgreatest.1
    obtain ⟨k, hk⟩ := hj.exists_fewer (m := n + 1) (by omega)
    have hstart := h.start_add_le hk (Nat.le_succ n)
    have hend := hp (n + 1) k e (by omega) (by omega) hk he (by omega)
    have := h.count_le
    omega
  exact ⟨he, m, by omega, hgreatest, hmin ▸ h⟩

lemma not_isMemberStart_of_rule_eq_none {p : Nat} (h : memberWordRule (s.drop p) = none) :
    ¬ IsMemberStart s p := by
  rintro ⟨e, he, n, htwo, -, hwords⟩
  exact rule_ne_none (by omega) (Nat.min_le_right _ _) hwords he h

/-- What a pass makes of the letters from a place on. -/
structure LowersFrom (s : List Char) (p : Nat) (t : List Char) : Prop where
  length_eq : t.length = s.length - p
  start : ∀ i, IsMemberStart s (p + i) → t[i]? = s[p + i]?.map Char.toLower
  other : ∀ i, ¬ IsMemberStart s (p + i) → t[i]? = s[p + i]?

lemma LowersFrom.cons {p : Nat} {c : Char} {t : List Char} (hc : s[p]? = some c)
    (hp : ¬ IsMemberStart s p) (h : LowersFrom s (p + 1) t) : LowersFrom s p (c :: t) := by
  obtain ⟨hlt, -⟩ := List.getElem?_eq_some_iff.mp hc
  have hplace : ∀ i, p + (i + 1) = p + 1 + i := by
    intro i
    omega
  refine ⟨?_, fun i hi => ?_, fun i hi => ?_⟩
  · have := h.length_eq
    simp only [List.length_cons]
    omega
  · cases i with
    | zero => exact absurd hi hp
    | succ i =>
      rw [hplace] at hi ⊢
      exact h.start i hi
  · cases i with
    | zero => exact hc.symm
    | succ i =>
      rw [hplace] at hi ⊢
      exact h.other i hi

/-- Over a row that names a member, the first letter is lowered and the others are copied. -/
lemma LowersFrom.row {p e : Nat} {c : Char} {tail t : List Char} (hrow : MemberRow s p e)
    (hs : s.drop p = c :: tail ++ s.drop e) (hlength : (c :: tail).length = e - p)
    (h : LowersFrom s e t) : LowersFrom s p (c.toLower :: tail ++ t) := by
  have hlt := hrow.start_lt
  have hget : ∀ i, s[p + i]? = (c :: tail ++ s.drop e)[i]? := by
    intro i
    rw [← hs, List.getElem?_drop]
  -- places in the row behind its first letter
  have hinside : ∀ i, 0 < i → i < e - p → ¬ IsMemberStart s (p + i) := by
    rintro i hpos hi ⟨e', hrow'⟩
    have := (hrow.eq_of_overlap hrow' (by omega) (by omega)).1
    omega
  -- places behind the row
  have hbehind : ∀ i, e - p ≤ i → p + i = e + (i - (e - p)) ∧
      (c.toLower :: tail ++ t)[i]? = t[i - (e - p)]? := by
    intro i hi
    refine ⟨by omega, ?_⟩
    have hfront : (c.toLower :: tail).length = e - p := hlength
    rw [List.getElem?_append_right (by omega), hfront]
  refine ⟨?_, fun i hi => ?_, fun i hi => ?_⟩
  · have := h.length_eq
    have := congrArg List.length hs
    simp only [List.length_drop, List.length_append, List.length_cons] at *
    omega
  · by_cases hrest : e - p ≤ i
    · obtain ⟨hplace, hchar⟩ := hbehind i hrest
      rw [hplace] at hi ⊢
      rw [hchar]
      exact h.start _ hi
    · obtain rfl : i = 0 := by
        by_contra hne
        exact hinside i (by omega) (by omega) hi
      rw [hget]
      rfl
  · by_cases hrest : e - p ≤ i
    · obtain ⟨hplace, hchar⟩ := hbehind i hrest
      rw [hplace] at hi ⊢
      rw [hchar]
      exact h.other _ hi
    · cases i with
      | zero => exact absurd ⟨e, hrow⟩ hi
      | succ i =>
        simp only [List.length_cons] at hlength
        rw [hget, List.cons_append, List.cons_append, List.getElem?_cons_succ,
          List.getElem?_cons_succ, List.getElem?_append_left (by omega),
          List.getElem?_append_left (by omega)]

/-- A pass lowers the letters at which members start, and copies all others. -/
lemma lowersFrom_of_rewrites {u t : List Char} (h : memberWordRule.Rewrites u t) {p : Nat}
    (hp : Unbroken s p) (hu : s.drop p = u) : LowersFrom s p t := by
  induction h generalizing p with
  | nil =>
    have hlength := List.drop_eq_nil_iff.mp hu
    have hnone : ∀ i, s[p + i]? = none := fun i => List.getElem?_eq_none (by omega)
    refine ⟨by simp; omega, fun i _ => ?_, fun i _ => ?_⟩
    · rw [hnone]
      rfl
    · rw [hnone]
      rfl
  | @copy c u t hc hs ih =>
    rw [← hu] at hc
    have hget : s[p]? = some c := by
      rw [← List.head?_drop, hu, List.head?_cons]
    have hdrop : s.drop (p + 1) = u := by
      rw [← List.drop_drop, hu, List.drop_one, List.tail_cons]
    exact (ih (hp.succ hc) hdrop).cons hget (not_isMemberStart_of_rule_eq_none hc)
  | @replace u r rest t hs hrest ih =>
    rw [← hu] at hs
    obtain ⟨n, e, htwo, hfour, hwords, he, rfl, hlength, c, tail, hdrop, rfl⟩ :=
      exists_wordsBetween_of_rule hs
    have hrow := memberRow_of_unbroken hp htwo hfour hwords he
    exact (ih he.unbroken rfl).row hrow hdrop hlength

/-! ### Expressions -/

lemma lowersFrom_substitute (s : List Char) : LowersFrom s 0 (substitute memberWordRule s) := by
  have hconsumes : memberWordRule.Consumes :=
    (initializerRules_lower memberWordRule (by simp [initializerRules])).consumes
  refine lowersFrom_of_rewrites (Rule.rewrites_substitute hconsumes s) ?_ rfl
  intro n i e _ _ _ _ hi
  exact absurd hi (Nat.not_lt_zero i)

/-- In a run of word characters before a parenthesis no member starts. -/
lemma not_isMemberStart_of_call {before run after : List Char}
    (hs : s = before ++ run ++ '(' :: after) (hrun : ∀ c ∈ run, isWord c = true) {i : Nat}
    (hi : before.length ≤ i) (hlt : i < (before ++ run).length) : ¬ IsMemberStart s i := by
  rintro ⟨e, hrow⟩
  have hparenthesis : s[(before ++ run).length]? = some '(' := by
    rw [hs, List.getElem?_append_right (Nat.le_refl _), Nat.sub_self]
    rfl
  have hend : e = (before ++ run).length := by
    refine hrow.end_eq hlt (by simp [hs]) (fun p c hp hplt hc => ?_) (fun c hc => ?_)
    · rw [hs, List.getElem?_append_left hplt, List.getElem?_append_right (by omega)] at hc
      exact hrun c (List.mem_of_getElem? hc)
    · obtain rfl : '(' = c := Option.some.inj (hparenthesis.symm.trans hc)
      decide +kernel
  subst hend
  exact (hrow.uncalled _ hparenthesis).2 rfl

/-- **An expression comes out with exactly those letters lowered at which members start.**  Nothing
else changes, and in a run of word characters before a parenthesis nothing does. -/
theorem convertMembers_lowers_member_starts (expression : String)
    (h : trim expression.toList ≠ []) :
    ∃ t, convertMembers (some expression) = some t ∧
      t.length = (trim expression.toList).length ∧
      (∀ i, IsMemberStart (trim expression.toList) i →
        ∃ c, (trim expression.toList)[i]? = some c ∧ isCapital c = true ∧
          t.toList[i]? = some c.toLower) ∧
      (∀ i, ¬ IsMemberStart (trim expression.toList) i →
        t.toList[i]? = (trim expression.toList)[i]?) ∧
      ∀ before run after, trim expression.toList = before ++ run ++ '(' :: after →
        (∀ c ∈ run, isWord c = true) → ∀ i, before.length ≤ i → i < (before ++ run).length →
          t.toList[i]? = (trim expression.toList)[i]? := by
  have hpass := lowersFrom_substitute (trim expression.toList)
  have hother : ∀ i, ¬ IsMemberStart (trim expression.toList) i →
      (substitute memberWordRule (trim expression.toList))[i]? =
        (trim expression.toList)[i]? := by
    intro i hi
    simpa using hpass.other i (by simpa using hi)
  refine ⟨String.ofList (substitute memberWordRule (trim expression.toList)), ?_, ?_, ?_, ?_, ?_⟩
  · simp [convertMembers, convertWith, h]
  · simpa using hpass.length_eq
  · rintro i ⟨e, hrow⟩
    obtain ⟨c, hget, hc⟩ := hrow.exists_capital
    refine ⟨c, hget, hc, ?_⟩
    have hlower := hpass.start i (by simpa using ⟨e, hrow⟩)
    simpa [hget] using hlower
  · intro i hi
    rw [String.toList_ofList]
    exact hother i hi
  · intro before run after hs hrun i hi hlt
    rw [String.toList_ofList]
    exact hother i (not_isMemberStart_of_call hs hrun hi hlt)

theorem convertMembers_five_words :
    convertMembers (some " GetPort(xAbCdEfGhIj) ") = some "GetPort(xAbcdEfGhIj)" ∧
      IsMemberStart "GetPort(xAbCdEfGhIj)".toList 11 ∧
      ¬ IsMemberStart "GetPort(xAbCdEfGhIj)".toList 0 := by
  have htrim : trim " GetPort(xAbCdEfGhIj) ".toList = "GetPort(xAbCdEfGhIj)".toList := by
    decide
  have hconvert : convertMembers (some " GetPort(xAbCdEfGhIj) ") =
      some "GetPort(xAbcdEfGhIj)" := by
    decide +kernel
  obtain ⟨t, ht, -, hstart, hother, -⟩ := convertMembers_lowers_member_starts
    " GetPort(xAbCdEfGhIj) " (by rw [htrim]; decide)
  rw [htrim] at hstart hother
  obtain rfl : t = "GetPort(xAbcdEfGhIj)" := Option.some.inj (ht.symm.trans hconvert)
  refine ⟨hconvert, ?_, ?_⟩
  · by_contra hnot
    have := hother 11 hnot
    revert this
    decide
  · intro hzero
    obtain ⟨c, hget, -, hlower⟩ := hstart 0 hzero
    have hc : 'G' = c := by simpa using hget
    rw [← hc] at hlower
    revert hlower
    decide

end DataContract.Java
