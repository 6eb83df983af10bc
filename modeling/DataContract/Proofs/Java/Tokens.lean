/-
Which words of an expression the rule for members breaks.

A token is a run of word characters that no word character borders on.  The rule
for members looks where a row of capitalised words ends, and not where it
starts: the row may begin in the middle of a token, behind small letters or
behind words that are too many.  Then a letter inside the token is lowered.  In
every other token only the first letter can change.
-/
import DataContract.Proofs.Java.MemberWords
import Mathlib.Tactic.MkIffOfInductiveProp

namespace DataContract.Java

open DataContract.Text

/-- A run of word characters of a text, as long as can be, with what stands before and behind it. -/
@[mk_iff]
structure IsToken (s before w after : List Char) : Prop where
  eq : s = before ++ w ++ after
  ne_nil : w ≠ []
  word : ∀ c ∈ w, isWord c = true
  before : ∀ c ∈ before.getLast?, isWord c = false
  after : ∀ c ∈ after.head?, isWord c = false

/-- A token ends in two capitalised words and is not called, but it is more than a row of up to four
such words. -/
structure BrokenInside (w after : List Char) : Prop where
  uncalled : after.head? ≠ some '('
  two : ∃ front u v, w = front ++ u ++ v ∧ IsCapitalised u ∧ IsCapitalised v
  whole : ¬ ∃ parts : List (List Char), parts.length ≤ 4 ∧ w = parts.flatten ∧
    ∀ u ∈ parts, IsCapitalised u

namespace IsToken

variable {s before w after : List Char}

lemma iff_all : IsToken s before w after ↔
    s = before ++ w ++ after ∧ w ≠ [] ∧ w.all isWord ∧ before.getLast?.all (!isWord ·) ∧
      after.head?.all (!isWord ·) := by
  simp only [isToken_iff, List.all_eq_true, Option.all_eq_true, Bool.not_eq_true', Option.mem_def]

instance : Decidable (IsToken s before w after) :=
  decidable_of_iff _ iff_all.symm

/-! ### Rows of words in a token -/

lemma end_le_length (h : IsToken s before w after) : before.length + w.length ≤ s.length := by
  simp [h.eq]

lemma getElem?_add (h : IsToken s before w after) {j : Nat} (hj : j < w.length) :
    s[before.length + j]? = w[j]? := by
  rw [h.eq, List.append_assoc, List.getElem?_append_right (by omega), Nat.add_sub_cancel_left,
    List.getElem?_append_left hj]

lemma getElem?_end (h : IsToken s before w after) :
    s[before.length + w.length]? = after.head? := by
  rw [h.eq, List.getElem?_append_right (by simp), List.length_append, Nat.sub_self,
    List.head?_eq_getElem?]

lemma uncalled_iff (h : IsToken s before w after) :
    Uncalled s (before.length + w.length) ↔ after.head? ≠ some '(' := by
  rw [Uncalled, h.getElem?_end]
  constructor
  · intro huncalled hcall
    exact (huncalled '(' hcall).2 rfl
  · rintro hcall c hc
    refine ⟨h.after c hc, ?_⟩
    rintro rfl
    exact hcall hc

/-- A row of words at the end of a token is a row at the end of its text. -/
lemma wordsBetween_iff (h : IsToken s before w after) {n j : Nat} (hj : j ≤ w.length) :
    WordsBetween s n (before.length + j) (before.length + w.length) ↔
      ∃ parts : List (List Char), parts.length = n ∧ w.drop j = parts.flatten ∧
        ∀ u ∈ parts, IsCapitalised u := by
  have hpart : (s.take (before.length + w.length)).drop (before.length + j) = w.drop j := by
    rw [h.eq, ← List.length_append, List.take_left, ← List.drop_drop, List.drop_left]
  constructor
  · intro hwords
    rw [← hpart]
    exact hwords.words
  · intro hparts
    exact ⟨by omega, h.end_le_length, by rwa [hpart]⟩

/-- A row of words at the end of a token does not reach over its start. -/
lemma length_le_start (h : IsToken s before w after) {n i : Nat}
    (hwords : WordsBetween s n i (before.length + w.length)) : before.length ≤ i := by
  by_contra hlt
  have hget : s[before.length - 1]? = before.getLast? := by
    rw [h.eq, List.append_assoc, List.getElem?_append_left (by omega), List.getLast?_eq_getElem?]
  obtain ⟨c, hc⟩ : ∃ c, before.getLast? = some c :=
    ⟨_, List.getLast?_eq_some_getLast (List.ne_nil_of_length_pos (by omega))⟩
  have hword := hwords.isWord_of_lt (by omega) (by omega) (hget.trans hc)
  rw [h.before c hc] at hword
  cases hword

/-- A row that names a member and starts in a token ends with it. -/
lemma memberRow_end (h : IsToken s before w after) {j e : Nat} (hj : j < w.length)
    (hrow : MemberRow s (before.length + j) e) : e = before.length + w.length := by
  refine hrow.end_eq (by omega) h.end_le_length (fun p c hp hlt hc => ?_) (fun c hc => ?_)
  · obtain ⟨k, rfl⟩ := Nat.exists_eq_add_of_le (Nat.le_trans (Nat.le_add_right _ j) hp)
    rw [h.getElem?_add (by omega)] at hc
    exact h.word c (List.mem_of_getElem? hc)
  · exact h.after c (h.getElem?_end ▸ hc)

/-- A token is broken inside exactly if a member starts behind its first letter. -/
lemma brokenInside_iff (h : IsToken s before w after) :
    BrokenInside w after ↔
      ∃ j, 0 < j ∧ j < w.length ∧ IsMemberStart s (before.length + j) := by
  constructor
  · rintro ⟨hcall, ⟨front, u, v, hw, hu, hv⟩, hwhole⟩
    have hlength : front.length ≤ w.length := by simp [hw]
    have htwo : WordsBetween s 2 (before.length + front.length) (before.length + w.length) :=
      (h.wordsBetween_iff hlength).mpr ⟨[u, v], rfl, by simp [hw], by simp [hu, hv]⟩
    obtain ⟨n, hle, hgreatest⟩ := exists_isGreatest htwo
    obtain ⟨k, hk⟩ := hgreatest.1
    obtain ⟨i, hi⟩ := hk.exists_fewer (Nat.min_le_left n 4)
    have hrow : MemberRow s i (before.length + w.length) :=
      ⟨h.uncalled_iff.mpr hcall, n, hle, hgreatest, hi⟩
    have hlt := hrow.start_lt
    obtain ⟨j, rfl⟩ := Nat.exists_eq_add_of_le (h.length_le_start hi)
    refine ⟨j, ?_, by omega, _, hrow⟩
    by_contra hzero
    obtain rfl : j = 0 := by omega
    -- the row is the whole token
    obtain ⟨parts, hparts, hflatten, hcapitalised⟩ := (h.wordsBetween_iff (Nat.zero_le _)).mp hi
    exact hwhole ⟨parts, by omega, hflatten, hcapitalised⟩
  · rintro ⟨j, hpos, hj, e, hrow⟩
    obtain rfl := h.memberRow_end hj hrow
    obtain ⟨n, htwo, hgreatest, hwords⟩ := hrow.words
    refine ⟨h.uncalled_iff.mp hrow.uncalled, ?_, ?_⟩
    · obtain ⟨i, hi⟩ := hwords.exists_fewer (m := 2) (by omega)
      have hle := hi.le
      obtain ⟨k, rfl⟩ := Nat.exists_eq_add_of_le (h.length_le_start hi)
      obtain ⟨parts, hparts, hflatten, hcapitalised⟩ := (h.wordsBetween_iff (by omega)).mp hi
      obtain ⟨u, v, rfl⟩ := List.length_eq_two.mp hparts
      refine ⟨w.take k, u, v, ?_, hcapitalised u (by simp), hcapitalised v (by simp)⟩
      have hsplit := List.take_append_drop k w
      rw [hflatten] at hsplit
      simpa using hsplit.symm
    · rintro ⟨parts, hfour, hflatten, hcapitalised⟩
      have hwhole : WordsBetween s parts.length before.length (before.length + w.length) :=
        (h.wordsBetween_iff (Nat.zero_le _)).mpr ⟨parts, rfl, hflatten, hcapitalised⟩
      have hcount := hgreatest.2 ⟨_, hwhole⟩
      -- a row of no more words would start no earlier
      have hstart := hwhole.start_add_le hwords (by omega)
      omega

/-! ### What becomes of a token -/

variable {t : List Char}

/-- A token in which no member starts is copied. -/
lemma copied (h : IsToken s before w after) (ht : LowersFrom s 0 t)
    (hnone : ∀ j < w.length, ¬ IsMemberStart s (before.length + j)) :
    (t.drop before.length).take w.length = w := by
  refine List.ext_getElem? (fun j => ?_)
  by_cases hj : j < w.length
  · rw [List.getElem?_take_of_lt hj, List.getElem?_drop, ht.other _ (by simpa using hnone j hj),
      Nat.zero_add, h.getElem?_add hj]
  · rw [List.getElem?_eq_none (by simp; omega), List.getElem?_eq_none (by omega)]

/-- In a token in which a member starts, that letter alone is lowered. -/
lemma lowered (h : IsToken s before w after) (ht : LowersFrom s 0 t) {j : Nat}
    (hj : j < w.length) (hstart : IsMemberStart s (before.length + j)) :
    ∃ c, w[j]? = some c ∧ isCapital c = true ∧
      (t.drop before.length).take w.length = w.set j c.toLower := by
  obtain ⟨e, hrow⟩ := hstart
  obtain ⟨c, hget, hc⟩ := hrow.exists_capital
  rw [h.getElem?_add hj] at hget
  refine ⟨c, hget, hc, List.ext_getElem? (fun k => ?_)⟩
  by_cases hk : k < w.length
  · rw [List.getElem?_take_of_lt hk, List.getElem?_drop]
    by_cases hjk : j = k
    · subst hjk
      rw [ht.start _ (by simpa using ⟨e, hrow⟩), Nat.zero_add, h.getElem?_add hj, hget,
        List.getElem?_set_self hj]
      rfl
    · have hnot : ¬ IsMemberStart s (before.length + k) := by
        rintro ⟨e', hrow'⟩
        -- both rows end with the token
        rw [h.memberRow_end hj hrow] at hrow
        rw [h.memberRow_end hk hrow'] at hrow'
        have := hrow.start_unique hrow'
        omega
      rw [ht.other _ (by simpa using hnot), Nat.zero_add, h.getElem?_add hk,
        List.getElem?_set_ne hjk]
  · rw [List.getElem?_eq_none (by simp; omega), List.getElem?_eq_none (by simp; omega)]

lemma kept_or_identifier (h : IsToken s before w after) (ht : LowersFrom s 0 t)
    (hbroken : ¬ BrokenInside w after) :
    (t.drop before.length).take w.length = w ∨
      (t.drop before.length).take w.length = (identifier (String.ofList w)).toList := by
  have hinside : ∀ j, 0 < j → j < w.length → ¬ IsMemberStart s (before.length + j) := by
    intro j hpos hj hstart
    exact hbroken (h.brokenInside_iff.mpr ⟨j, hpos, hj, hstart⟩)
  by_cases hfirst : IsMemberStart s (before.length + 0)
  · right
    obtain ⟨c, hget, hc, hset⟩ := h.lowered ht (List.length_pos_of_ne_nil h.ne_nil) hfirst
    obtain ⟨d, rest, rfl⟩ := List.exists_cons_of_ne_nil h.ne_nil
    obtain rfl : d = c := by simpa using hget
    rw [hset, identifier_of_isCapital hc, List.set_cons_zero]
  · left
    refine h.copied ht (fun j hj => ?_)
    cases j with
    | zero => exact hfirst
    | succ j => exact hinside _ (Nat.succ_pos j) hj

end IsToken

/-- A capital that is lowered behind the first letter makes neither the same word nor the one that
starts with a small letter. -/
lemma set_toLower_ne {w : List Char} {j : Nat} {c : Char} (hpos : 0 < j) (hget : w[j]? = some c)
    (hc : isCapital c = true) :
    w.set j c.toLower ≠ w ∧ w.set j c.toLower ≠ (identifier (String.ofList w)).toList := by
  have hlower : c.toLower ≠ c := by
    intro heq
    have hsmall := isSmall_toLower hc
    rw [heq, isSmall_of_isCapital hc] at hsmall
    cases hsmall
  -- the letter itself tells the words apart
  have hset : ∀ {v : List Char} {k : Nat}, v[k]? = some c → v.set k c.toLower ≠ v := by
    intro v k hv heq
    obtain ⟨hlt, -⟩ := List.getElem?_eq_some_iff.mp hv
    have hletter := List.getElem?_set_self (a := c.toLower) hlt
    rw [heq, hv] at hletter
    exact hlower (Option.some.inj hletter).symm
  refine ⟨hset hget, fun heq => ?_⟩
  obtain ⟨k, rfl⟩ := Nat.exists_eq_add_of_le' hpos
  cases w with
  | nil => simp at hget
  | cons d rest =>
    have hidentifier : (identifier (String.ofList (d :: rest))).toList = lower d ++ rest := by
      simp [identifier]
    rw [hidentifier, List.set_cons_succ] at heq
    have hlength := congrArg List.length heq
    obtain ⟨d', hd⟩ : ∃ d', lower d = [d'] := by
      refine List.length_eq_one_iff.mp ?_
      simp only [List.length_cons, List.length_set, List.length_append] at hlength
      omega
    rw [hd, List.singleton_append, List.cons.injEq] at heq
    exact hset (by simpa using hget) heq.2

/-! ### Expressions -/

/-- An expression in which neither text is replaced has only its members converted. -/
lemma convert_eq_convertMembers {expression : String}
    (hregex : ¬ "new Regex".toList <:+: expression.toList)
    (hreplace : ¬ "Replace".toList <:+: expression.toList) :
    convert (some expression) = convertMembers (some expression) := by
  have hkept : ∀ {old new : List Char}, ¬ old <:+: expression.toList →
      replaceAll old new (trim expression.toList) = trim expression.toList := by
    intro old new hold
    exact Rule.substitute_of_misses
      (Rule.misses_literal_iff.mpr (fun hin => hold (hin.trans (trim_isInfix _))))
  simp only [convert, convertMembers, convertWith, javaReplacements, List.foldl_cons,
    List.foldl_nil, hkept hregex, hkept hreplace]

/-- **Of an expression in which no text is replaced, a token comes out as itself or with its first
letter lowered exactly if it is not broken inside.**  In a broken one a later capital is lowered.
What is no token stays as it is. -/
theorem convert_keeps_token_iff (expression : String)
    (hregex : ¬ "new Regex".toList <:+: expression.toList)
    (hreplace : ¬ "Replace".toList <:+: expression.toList) :
    ∃ t : List Char,
      convert (some expression) =
        (if trim expression.toList = [] then none else some (String.ofList t)) ∧
      t.length = (trim expression.toList).length ∧
      (∀ (i : Nat) c, (trim expression.toList)[i]? = some c → isWord c = false → t[i]? = some c) ∧
      ∀ before w after, IsToken (trim expression.toList) before w after →
        ((t.drop before.length).take w.length = w ∨
            (t.drop before.length).take w.length = (identifier (String.ofList w)).toList ↔
          ¬ BrokenInside w after) ∧
        (BrokenInside w after → ∃ j c, 0 < j ∧ w[j]? = some c ∧ isCapital c = true ∧
          (t.drop before.length).take w.length = w.set j c.toLower) := by
  have hpass := lowersFrom_substitute (trim expression.toList)
  have hbroken : ∀ before w after, IsToken (trim expression.toList) before w after →
      BrokenInside w after → ∃ j c, 0 < j ∧ w[j]? = some c ∧ isCapital c = true ∧
        ((substitute memberWordRule (trim expression.toList)).drop before.length).take w.length =
          w.set j c.toLower := by
    intro before w after htoken hinside
    obtain ⟨j, hpos, hj, hstart⟩ := htoken.brokenInside_iff.mp hinside
    obtain ⟨c, hget, hc, hset⟩ := htoken.lowered hpass hj hstart
    exact ⟨j, c, hpos, hget, hc, hset⟩
  refine ⟨substitute memberWordRule (trim expression.toList), ?_, ?_, ?_, ?_⟩
  · rw [convert_eq_convertMembers hregex hreplace]
    simp [convertMembers, convertWith]
  · simpa using hpass.length_eq
  · intro i c hget hword
    have hnot : ¬ IsMemberStart (trim expression.toList) i := by
      rintro ⟨e, hrow⟩
      obtain ⟨d, hd, hcapital⟩ := hrow.exists_capital
      obtain rfl : c = d := Option.some.inj (hget.symm.trans hd)
      rw [isWord_of_isCapital hcapital] at hword
      cases hword
    rw [hpass.other i (by simpa using hnot), Nat.zero_add, hget]
  · intro before w after htoken
    refine ⟨⟨fun hkept hinside => ?_, htoken.kept_or_identifier hpass⟩, hbroken _ _ _ htoken⟩
    obtain ⟨j, c, hpos, hget, hc, hset⟩ := hbroken _ _ _ htoken hinside
    obtain ⟨hne, hne'⟩ := set_toLower_ne hpos hget hc
    rw [hset] at hkept
    exact hkept.elim hne hne'

theorem convert_keeps_token_iff_tunnelPort :
    convert (some "TunnelPort+myTunnelId ") = some "tunnelPort+mytunnelId" ∧
      ¬ BrokenInside "TunnelPort".toList "+myTunnelId".toList ∧
      BrokenInside "myTunnelId".toList [] := by
  have htrim : trim "TunnelPort+myTunnelId ".toList = "TunnelPort+myTunnelId".toList := by
    decide
  have hconvert : convert (some "TunnelPort+myTunnelId ") = some "tunnelPort+mytunnelId" := by
    decide +kernel
  obtain ⟨t, ht, -, -, htokens⟩ := convert_keeps_token_iff "TunnelPort+myTunnelId "
    (by decide +kernel) (by decide +kernel)
  rw [htrim] at ht htokens
  have htext : "tunnelPort+mytunnelId" = String.ofList t :=
    Option.some.inj (hconvert.symm.trans ht)
  obtain rfl : "tunnelPort+mytunnelId".toList = t := by rw [htext, String.toList_ofList]
  refine ⟨hconvert, ?_, ?_⟩
  · exact (htokens [] "TunnelPort".toList "+myTunnelId".toList (by decide +kernel)).1.mp
      (.inr (by decide +kernel))
  · by_contra hnot
    have hkept :=
      (htokens "TunnelPort+".toList "myTunnelId".toList [] (by decide +kernel)).1.mpr hnot
    revert hkept
    decide +kernel

theorem not_forall_convert_keeps_token :
    ¬ ∀ (expression t : String), ¬ "new Regex".toList <:+: expression.toList →
      ¬ "Replace".toList <:+: expression.toList → convert (some expression) = some t →
        ∀ before w after, IsToken (trim expression.toList) before w after →
          (t.toList.drop before.length).take w.length = w ∨
            (t.toList.drop before.length).take w.length =
              (identifier (String.ofList w)).toList := by
  intro h
  have hkept := h "myTunnelId" "mytunnelId" (by decide +kernel) (by decide +kernel)
    (by decide +kernel) [] "myTunnelId".toList [] (by decide +kernel)
  revert hkept
  decide +kernel

end DataContract.Java
