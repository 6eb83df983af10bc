/-
The rules that are passed over initializers.

There are two literal replacements, and the rule that makes a word of two to four
capitalised parts start with a small letter unless it is called.  It is said here
where the last one matches.  Each rule lowers the number of capitals and spaces,
and so none undoes what another one has done.
-/
import DataContract.Java.Contract
import DataContract.Proofs.Text.Blank
import DataContract.Proofs.Text.Lowercase
import DataContract.Proofs.Text.Range
import DataContract.Proofs.Text.Substitution

namespace DataContract.Java

open DataContract.Text

/-! ### Capitalised words -/

/-- A capital and one or more small letters after it. -/
def IsCapitalised (w : List Char) : Prop :=
  ∃ c rest, w = c :: rest ∧ isCapital c = true ∧ rest ≠ [] ∧ ∀ d ∈ rest, isSmall d = true

lemma isCapital_iff {c : Char} : isCapital c = true ↔ 0x41 ≤ c.toNat ∧ c.toNat ≤ 0x5a := by
  simp only [isCapital, Bool.and_eq_true, decide_eq_true_eq, Char.le_def, UInt32.le_iff_toNat_le]
  exact Iff.rfl

lemma isSmall_iff {c : Char} : isSmall c = true ↔ 0x61 ≤ c.toNat ∧ c.toNat ≤ 0x7a := by
  simp only [isSmall, Bool.and_eq_true, decide_eq_true_eq, Char.le_def, UInt32.le_iff_toNat_le]
  exact Iff.rfl

lemma isWord_of_isCapital {c : Char} (h : isCapital c = true) : isWord c = true := by
  have hword : isAsciiWord c = true :=
    isAsciiWord_iff.mpr
      (inRanges_iff.mpr ⟨⟨0x41, 0x5a⟩, by simp [asciiWordRanges], isCapital_iff.mp h⟩)
  rw [isWord, hword, Bool.true_or]

lemma isWord_of_isSmall {c : Char} (h : isSmall c = true) : isWord c = true := by
  have hword : isAsciiWord c = true :=
    isAsciiWord_iff.mpr
      (inRanges_iff.mpr ⟨⟨0x61, 0x7a⟩, by simp [asciiWordRanges], isSmall_iff.mp h⟩)
  rw [isWord, hword, Bool.true_or]

lemma isSmall_of_isCapital {c : Char} (h : isCapital c = true) : isSmall c = false := by
  rw [Bool.eq_false_iff, ne_eq, isSmall_iff]
  have := isCapital_iff.mp h
  omega

/-- A text starts with a capitalised word that is as long as can be. -/
lemma capitalised?_eq_some_iff {s w rest : List Char} :
    capitalised? s = some (w, rest) ↔
      s = w ++ rest ∧ IsCapitalised w ∧ ∀ d ∈ rest.head?, isSmall d = false := by
  constructor
  · intro h
    match s, h with
    | c :: d :: tail, h =>
      simp only [capitalised?, Option.ite_none_right_eq_some, Bool.and_eq_true, Option.some.injEq,
        Prod.mk.injEq] at h
      obtain ⟨⟨hc, hd⟩, rfl, rfl⟩ := h
      refine ⟨by simp, ⟨c, _, rfl, hc, by simp, ?_⟩, fun e he => ?_⟩
      · exact List.forall_mem_cons.mpr ⟨hd, fun e he => List.mem_takeWhile_imp he⟩
      · have := List.head?_dropWhile_not isSmall tail
        rw [Option.mem_def.mp he] at this
        simpa using this
  · rintro ⟨rfl, ⟨c, tail, rfl, hc, hne, htail⟩, hrest⟩
    obtain ⟨d, tail, rfl⟩ := List.exists_cons_of_ne_nil hne
    rw [List.forall_mem_cons] at htail
    obtain ⟨hd, htail⟩ := htail
    have htake : (tail ++ rest).takeWhile isSmall = tail := by
      rw [List.takeWhile_append_of_pos htail]
      cases rest with
      | nil => simp
      | cons e rest => simp [hrest e (by simp)]
    have hdrop : (tail ++ rest).dropWhile isSmall = rest := by
      rw [List.dropWhile_append_of_pos htail]
      cases rest with
      | nil => simp
      | cons e rest => simp [hrest e (by simp)]
    simp [capitalised?, hc, hd, htake, hdrop]

lemma capitalisedParts_of_some {limit : Nat} {s part rest : List Char}
    (h : capitalised? s = some (part, rest)) :
    capitalisedParts (limit + 1) s =
      ((capitalisedParts limit rest).1 + 1, part ++ (capitalisedParts limit rest).2.1,
        (capitalisedParts limit rest).2.2) := by
  rw [capitalisedParts, h]

lemma capitalisedParts_of_none {limit : Nat} {s : List Char} (h : capitalised? s = none) :
    capitalisedParts (limit + 1) s = (0, [], s) := by
  rw [capitalisedParts, h]

/-- The parts that are read are capitalised words in front of the rest. -/
lemma exists_parts_of_capitalisedParts {limit n : Nat} {s word rest : List Char}
    (h : capitalisedParts limit s = (n, word, rest)) :
    ∃ parts : List (List Char), parts.length = n ∧ parts.flatten = word ∧ s = word ++ rest ∧
      ∀ w ∈ parts, IsCapitalised w := by
  induction limit generalizing n s word rest with
  | zero =>
    cases h
    exact ⟨[], rfl, rfl, rfl, by simp⟩
  | succ limit ih =>
    cases hpart : capitalised? s with
    | none =>
      rw [capitalisedParts_of_none hpart] at h
      cases h
      exact ⟨[], rfl, rfl, rfl, by simp⟩
    | some hit =>
      obtain ⟨part, tail⟩ := hit
      rw [capitalisedParts_of_some hpart] at h
      cases h
      obtain ⟨hs, hcapitalised, -⟩ := capitalised?_eq_some_iff.mp hpart
      obtain ⟨parts, hlength, hflatten, htail, hparts⟩ := ih (s := tail) rfl
      refine ⟨part :: parts, by rw [List.length_cons, hlength], ?_, ?_,
        List.forall_mem_cons.mpr ⟨hcapitalised, hparts⟩⟩
      · rw [List.flatten_cons, hflatten]
      · rw [hs, List.append_assoc, ← htail]

lemma exists_append_pair {α : Type} {l : List α} (h : 2 ≤ l.length) :
    ∃ front a b, l = front ++ [a, b] := by
  match hrev : l.reverse with
  | [] | [_] =>
    have := congrArg List.length hrev
    simp only [List.length_reverse, List.length_cons, List.length_nil] at this
    omega
  | b :: a :: back =>
    refine ⟨back.reverse, a, b, ?_⟩
    rw [← List.reverse_reverse l, hrev]
    simp

/-- Two capitalised words stand next to each other at the end of a word that is not called. -/
def MentionsMember (s : List Char) : Prop :=
  ∃ before u v after, s = before ++ (u ++ v) ++ after ∧ IsCapitalised u ∧ IsCapitalised v ∧
    endsUncalled after = true

/-- Where a whole word ends that is not called, no letter follows. -/
lemma not_word_of_endsUncalled {s : List Char} (h : endsUncalled s = true) :
    ∀ c ∈ s.head?, isWord c = false := by
  cases s with
  | nil => simp
  | cons c s =>
    simp only [endsUncalled, Bool.and_eq_true, Bool.not_eq_true'] at h
    simpa using h.1

lemma capitalised?_of_endsUncalled {s : List Char} (h : endsUncalled s = true) :
    capitalised? s = none := by
  match s with
  | [] => rfl
  | [c] => rfl
  | c :: d :: rest =>
    have hword : isWord c = false := not_word_of_endsUncalled h c rfl
    have hcapital : isCapital c = false :=
      Bool.eq_false_iff.mpr (fun hc => by simp [isWord_of_isCapital hc] at hword)
    simp [capitalised?, hcapital]

lemma count_capitalisedParts_le (limit : Nat) (s : List Char) :
    (capitalisedParts limit s).1 ≤ limit := by
  induction limit generalizing s with
  | zero => exact Nat.le_refl _
  | succ limit ih =>
    cases hpart : capitalised? s with
    | none =>
      rw [capitalisedParts_of_none hpart]
      exact Nat.zero_le _
    | some hit =>
      rw [capitalisedParts_of_some hpart]
      exact Nat.succ_le_succ (ih hit.2)

/-- A row of words before an end is read to its end, if it is not too long. -/
lemma capitalisedParts_flatten {parts : List (List Char)} (hparts : ∀ w ∈ parts, IsCapitalised w)
    {limit : Nat} (hlimit : parts.length ≤ limit) {rest : List Char}
    (hrest : endsUncalled rest = true) :
    capitalisedParts limit (parts.flatten ++ rest) = (parts.length, parts.flatten, rest) := by
  induction parts generalizing limit with
  | nil =>
    cases limit with
    | zero => rfl
    | succ limit => exact capitalisedParts_of_none (capitalised?_of_endsUncalled hrest)
  | cons w parts ih =>
    obtain ⟨limit, rfl⟩ : ∃ limit', limit = limit' + 1 :=
      Nat.exists_eq_succ_of_ne_zero (by simp at hlimit; omega)
    rw [List.forall_mem_cons] at hparts
    have hfirst :
        capitalised? (w ++ (parts.flatten ++ rest)) = some (w, parts.flatten ++ rest) := by
      refine capitalised?_eq_some_iff.mpr ⟨rfl, hparts.1, fun d hd => ?_⟩
      cases parts with
      | nil =>
        have hword := not_word_of_endsUncalled hrest d (by simpa using hd)
        exact Bool.eq_false_iff.mpr (fun hsmall => by simp [isWord_of_isSmall hsmall] at hword)
      | cons v parts =>
        obtain ⟨c, tail, rfl, hc, -⟩ := hparts.2 v List.mem_cons_self
        have hdc : c = d := by simpa using hd
        rw [← hdc]
        exact isSmall_of_isCapital hc
    rw [List.flatten_cons, List.append_assoc, capitalisedParts_of_some hfirst,
      ih hparts.2 (Nat.le_of_succ_le_succ hlimit)]
    rfl

/-- The rule takes a row of two to four words that ends uncalled, and lowers its first letter. -/
lemma memberWordRule_eq_some_iff {s r rest : List Char} :
    memberWordRule s = some (r, rest) ↔
      ∃ parts : List (List Char), 2 ≤ parts.length ∧ parts.length ≤ 4 ∧
        (∀ w ∈ parts, IsCapitalised w) ∧ s = parts.flatten ++ rest ∧ endsUncalled rest = true ∧
        r = (identifier (String.ofList parts.flatten)).toList := by
  constructor
  · intro h
    rw [memberWordRule] at h
    cases hparts : capitalisedParts 4 s with
    | mk n hit =>
      obtain ⟨word, rest'⟩ := hit
      rw [hparts] at h
      simp only [Option.ite_none_right_eq_some, Bool.and_eq_true, decide_eq_true_eq,
        Option.some.injEq, Prod.mk.injEq] at h
      obtain ⟨⟨hn, hrest⟩, rfl, rfl⟩ := h
      have hle := count_capitalisedParts_le 4 s
      rw [hparts] at hle
      obtain ⟨parts, rfl, rfl, rfl, hcapitalised⟩ := exists_parts_of_capitalisedParts hparts
      exact ⟨parts, hn, hle, hcapitalised, rfl, hrest, rfl⟩
  · rintro ⟨parts, htwo, hfour, hparts, rfl, hrest, rfl⟩
    rw [memberWordRule, capitalisedParts_flatten hparts hfour hrest]
    simp [htwo, hrest]

/-- The rule for members finds nothing exactly in a text that mentions none. -/
lemma misses_memberWordRule_iff {s : List Char} :
    memberWordRule.Misses s ↔ ¬ MentionsMember s := by
  constructor
  · rintro hmisses ⟨before, u, v, after, rfl, hu, hv, hafter⟩
    have hnone := hmisses (u ++ v ++ after) ⟨before, by simp⟩
    have hsome := memberWordRule_eq_some_iff.mpr ⟨[u, v], Nat.le_refl 2, by simp, by simp [hu, hv],
      (by simp : u ++ v ++ after = [u, v].flatten ++ after), hafter, rfl⟩
    rw [hnone] at hsome
    cases hsome
  · rintro hmentions t ⟨before, rfl⟩
    by_contra hsome
    obtain ⟨⟨r, rest⟩, hrule⟩ := Option.ne_none_iff_exists'.mp hsome
    obtain ⟨parts, htwo, -, hcapitalised, rfl, hrest, -⟩ := memberWordRule_eq_some_iff.mp hrule
    -- of two or more parts the last two are what is looked for
    obtain ⟨front, u, v, rfl⟩ := exists_append_pair htwo
    exact hmentions ⟨before ++ front.flatten, u, v, rest, by simp,
      hcapitalised u (by simp), hcapitalised v (by simp), hrest⟩

/-! ### What the rules lower -/

/-- The capitals and the space: every rule leaves fewer of them. -/
def isCapitalOrSpace (c : Char) : Bool :=
  isCapital c || c == ' '

lemma literal_compares {rel : Nat → Nat → Prop} {p : Char → Bool} {old new : List Char}
    (h : rel (new.countP p) (old.countP p)) : (Rule.literal old new).Compares rel p := by
  intro s r rest hs
  simp only [Rule.literal, Option.map_eq_some_iff, Prod.mk.injEq] at hs
  obtain ⟨rest, hdrop, rfl, rfl⟩ := hs
  exact ⟨old, dropPrefix?_eq_some_iff.mp hdrop, h⟩

lemma identifier_of_isCapital {c : Char} (hc : isCapital c = true) (rest : List Char) :
    (identifier (String.ofList (c :: rest))).toList = c.toLower :: rest := by
  have hascii : c.toNat < 0x80 := by
    have := isCapital_iff.mp hc
    omega
  simp [identifier, lower, hascii]

lemma isSmall_toLower {c : Char} (hc : isCapital c = true) : isSmall c.toLower = true := by
  have hrange := isCapital_iff.mp hc
  rw [isSmall_iff, toNat_toLower hrange]
  omega

/-- A match of the rule for members turns one capital into a small letter. -/
lemma exists_of_memberWordRule {s r rest : List Char} (h : memberWordRule s = some (r, rest)) :
    ∃ c tail, s = c :: tail ++ rest ∧ r = c.toLower :: tail ∧ isCapital c = true := by
  obtain ⟨parts, htwo, -, hcapitalised, rfl, -, rfl⟩ := memberWordRule_eq_some_iff.mp h
  cases parts with
  | nil => simp at htwo
  | cons part parts =>
    obtain ⟨c, tail, rfl, hc, -⟩ := hcapitalised part (by simp)
    exact ⟨c, tail ++ parts.flatten, by simp, identifier_of_isCapital hc _, hc⟩

lemma memberWordRule_compares {rel : Nat → Nat → Prop} {p : Char → Bool}
    (h : ∀ c : Char, isCapital c = true → ∀ n,
      rel (n + if p c.toLower then 1 else 0) (n + if p c then 1 else 0)) :
    memberWordRule.Compares rel p := by
  intro s r rest hs
  obtain ⟨c, tail, rfl, rfl, hc⟩ := exists_of_memberWordRule hs
  refine ⟨c :: tail, rfl, ?_⟩
  rw [List.countP_cons, List.countP_cons]
  exact h c hc _

lemma isCapitalOrSpace_toLower {c : Char} (hc : isCapital c = true) :
    isCapitalOrSpace c.toLower = false := by
  have hsmall := isSmall_iff.mp (isSmall_toLower hc)
  have hcapital : isCapital c.toLower = false := by
    rw [Bool.eq_false_iff, ne_eq, isCapital_iff]
    omega
  have hspace : c.toLower ≠ ' ' := by
    intro heq
    rw [heq] at hsmall
    revert hsmall
    decide
  simp [isCapitalOrSpace, hcapital, hspace]

/-- The rules that are passed over an initializer, in order. -/
def initializerRules : List Rule :=
  javaReplacements.map (fun r => Rule.literal r.1.toList r.2.toList) ++ [memberWordRule]

lemma initializerRules_compare {rel : Nat → Nat → Prop} {p : Char → Bool}
    (hliterals : ∀ r ∈ javaReplacements, rel (r.2.toList.countP p) (r.1.toList.countP p))
    (hmember : memberWordRule.Compares rel p) : ∀ rule ∈ initializerRules, rule.Compares rel p := by
  intro rule hrule
  rw [initializerRules, List.mem_append, List.mem_map, List.mem_singleton] at hrule
  rcases hrule with ⟨r, hr, rfl⟩ | rfl
  · exact literal_compares (hliterals r hr)
  · exact hmember

lemma initializerRules_lower : ∀ rule ∈ initializerRules, rule.Lowers isCapitalOrSpace := by
  refine initializerRules_compare (by decide +kernel) (memberWordRule_compares (fun c hc n => ?_))
  have hcapital : isCapitalOrSpace c = true := by simp [isCapitalOrSpace, hc]
  simp [isCapitalOrSpace_toLower hc, hcapital]

/-- No rule writes a `;`. -/
lemma initializerRules_neverRaise : ∀ rule ∈ initializerRules, rule.NeverRaises (· == ';') := by
  refine initializerRules_compare (by decide +kernel) (memberWordRule_compares (fun c hc n => ?_))
  have hlower : c.toLower ≠ ';' := by
    intro heq
    have hsmall := isSmall_toLower hc
    rw [heq] at hsmall
    revert hsmall
    decide
  simp [hlower]

lemma semicolon_notMem_substituteAll {s : List Char} (h : ';' ∉ s) :
    ';' ∉ substituteAll initializerRules s := by
  have hle := countP_substituteAll_le (fun rule hrule =>
    ⟨(initializerRules_lower rule hrule).consumes, initializerRules_neverRaise rule hrule⟩) s
  rw [← List.count_eq_zero, List.count] at h ⊢
  omega

/-- No rule matches at a quote. -/
lemma initializerRules_quote :
    ∀ rule ∈ initializerRules, ∀ s, rule ('"' :: s) = none := by
  intro rule hrule s
  rw [initializerRules, List.mem_append, List.mem_map, List.mem_singleton] at hrule
  rcases hrule with ⟨r, hr, rfl⟩ | rfl
  · have hhead : ∀ r ∈ javaReplacements, r.1.toList.head?.all (· != '"') ∧ r.1.toList ≠ [] := by
      decide
    obtain ⟨hquote, hne⟩ := hhead r hr
    obtain ⟨c, old, hold⟩ := List.exists_cons_of_ne_nil hne
    rw [hold] at hquote
    have hc : c ≠ '"' := by simpa using hquote
    simp [Rule.literal, hold, dropPrefix?, hc]
  · have hparts : capitalised? ('"' :: s) = none := by
      cases s with
      | nil => rfl
      | cons d s => rfl
    rw [memberWordRule, capitalisedParts_of_none hparts]
    rfl

lemma substituteAll_quote {rules : List Rule} (h : ∀ rule ∈ rules, ∀ s, rule ('"' :: s) = none)
    (s : List Char) : substituteAll rules ('"' :: s) = '"' :: substituteAll rules s := by
  induction rules generalizing s with
  | nil => rfl
  | cons rule rules ih =>
    rw [List.forall_mem_cons] at h
    rw [substituteAll_cons, Rule.substitute_cons (h.1 s), ih h.2, substituteAll_cons]

/-! ### From the declaration to the value -/

lemma afterEquals?_append {before : List Char} (h : ∀ c ∈ before, c ≠ '=' ∧ c ≠ '\n')
    (after : List Char) : afterEquals? (before ++ '=' :: after) = some after := by
  induction before with
  | nil => simp [afterEquals?]
  | cons c before ih =>
    rw [List.forall_mem_cons] at h
    simp [afterEquals?, h.1, ih h.2]

end DataContract.Java
