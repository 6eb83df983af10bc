/-
Which quoted initializers keep their value.

The initializer of a property is cut out of its declaration at the first `;`, and
the rules for initializers are then passed over it.  None of this looks at quotes.
So a quoted text comes out as it went in if it holds no `;`, none of the two texts
that are replaced, and no two capitalised words at the end of a word that is not
called.  A text that holds one of these is changed.  That is the way of the rules
as far as whole words are concerned, and a slip where only the end of a longer word
matches, so the texts with such a word are left out there.
-/
import DataContract.Proofs.Java.Tokens

namespace DataContract.Java

open DataContract.Text

/-- A text goes through unchanged: it is not cut, and no rule matches in it. -/
structure Unchanged (s : List Char) : Prop where
  semicolon : ';' ∉ s
  regex : ¬ "new Regex".toList <:+: s
  replace : ¬ "Replace".toList <:+: s
  member : ¬ MentionsMember s

lemma misses_initializerRules_iff {s : List Char} :
    (∀ rule ∈ initializerRules, rule.Misses s) ↔
      ¬ "new Regex".toList <:+: s ∧ ¬ "Replace".toList <:+: s ∧ ¬ MentionsMember s := by
  rw [initializerRules, javaReplacements, List.map_cons, List.map_cons, List.map_nil,
    List.cons_append, List.cons_append, List.nil_append, List.forall_mem_cons,
    List.forall_mem_cons, List.forall_mem_singleton, Rule.misses_literal_iff,
    Rule.misses_literal_iff, misses_memberWordRule_iff]

/-- An initializer that starts with a quote has a value. -/
lemma initialValue_quote (s : List Char) :
    initialValue (some (String.ofList ('"' :: s))) =
      some (String.ofList (substituteAll initializerRules ('"' :: trimRight s))) := by
  have htrim : trim (String.ofList ('"' :: s)).toList = '"' :: trimRight s := by
    rw [String.toList_ofList, trim, trimLeft_cons_of_not_blank rfl,
      trimRight_cons_of_not_blank rfl]
  have hconvert : convert (some (String.ofList ('"' :: s))) =
      some (String.ofList (substituteAll initializerRules ('"' :: trimRight s))) := by
    rw [convert, convertWith, htrim]
    rfl
  rw [initialValue, hconvert, Option.filter_some, if_pos]
  rw [substituteAll_quote initializerRules_quote]
  simp [nullInitializers, String.ext_iff]

/-- The initializer ends at the first `;` after its opening quote. -/
lemma extract_quote {before s : List Char} (hbefore : ∀ c ∈ before, c ≠ '=' ∧ c ≠ '\n')
    (hs : ';' ∉ s) (after : List Char) :
    extract (String.ofList (before ++ '=' :: ' ' :: '"' :: (s ++ ';' :: after))) =
      .ok (some (String.ofList ('"' :: trimRight s))) := by
  have hmem : ';' ∉ ' ' :: '"' :: s := by simp [hs]
  have hsplit : splitFirst? [';'] (' ' :: '"' :: (s ++ ';' :: after)) =
      some (' ' :: '"' :: s, after) := splitFirst?_singleton hmem after
  have htrim : trim (' ' :: '"' :: s) = '"' :: trimRight s := by
    rw [trim, trimLeft_cons_of_blank rfl, trimLeft_cons_of_not_blank rfl,
      trimRight_cons_of_not_blank rfl]
  simp only [extract, String.toList_ofList, afterEquals?_append hbefore, hsplit, htrim]

lemma Dialect.propertyValue_of_extract (x : Dialect) {d : Declaration} {p : Property}
    (hstatic : (p.isStatic && !d.isStaticClass) = false) {source expression : String}
    (hsource : p.initializer = some source) (hextract : extract source = .ok (some expression)) :
    x.propertyValue d p = pure (initialValue (some expression)) := by
  rw [propertyValue, hstatic, hsource, Option.mapM_some, hextract]
  rfl

/-- A quoted text followed by `;` stays as it is exactly if it goes through unchanged. -/
lemma substituteAll_quoted_eq_iff {body s after : List Char} (hs : ';' ∉ s)
    (hbody : body ++ ['"', ';'] = s ++ ';' :: after) :
    substituteAll initializerRules ('"' :: trimRight s) = '"' :: (body ++ ['"']) ↔
      Unchanged ('"' :: (body ++ ['"'])) := by
  by_cases hsemicolon : ';' ∈ body
  · -- The text is cut, and no rule writes the `;` again.
    have hmem : ';' ∈ '"' :: (body ++ ['"']) := by simp [hsemicolon]
    refine iff_of_false (fun heq => ?_) (fun h => h.semicolon hmem)
    have htrim : ';' ∉ '"' :: trimRight s := by
      simpa using fun h => hs ((trimRight_isPrefix s).subset h)
    exact semicolon_notMem_substituteAll htrim (heq ▸ hmem)
  · have hquoted : ';' ∉ body ++ ['"'] := by simp [hsemicolon]
    have hsplit : (body ++ ['"']) ++ ';' :: [] = s ++ ';' :: after := by simp [← hbody]
    obtain ⟨rfl, -, -⟩ := (List.append_cons_inj_of_notMem hquoted List.not_mem_nil).mp hsplit
    rw [trimRight_append_of_not_blank rfl, substituteAll_eq_self_iff initializerRules_lower,
      misses_initializerRules_iff]
    constructor
    · rintro ⟨hregex, hreplace, hmember⟩
      exact ⟨by simp [hsemicolon], hregex, hreplace, hmember⟩
    · intro h
      exact ⟨h.regex, h.replace, h.member⟩

/-- **A property whose initializer is a text in quotes has a value, and the value is that text if
the text goes through unchanged.**  Of the texts in which no token is broken inside, no other one
keeps its value. -/
theorem Dialect.quoted_propertyValue_iff_unchanged (x : Dialect) (d : Declaration) (p : Property)
    (hstatic : (p.isStatic && !d.isStaticClass) = false) (before body : String)
    (hbefore : ∀ c ∈ before.toList, c ≠ '=' ∧ c ≠ '\n')
    (hsource : p.initializer = some (before ++ "= \"" ++ body ++ "\";")) :
    ∃ value, x.propertyValue d p = pure (some value) ∧
      (Unchanged ("\"" ++ body ++ "\"").toList → value = "\"" ++ body ++ "\"") ∧
      ((∀ front w back, IsToken ("\"" ++ body ++ "\"").toList front w back →
          ¬ BrokenInside w back) →
        value = "\"" ++ body ++ "\"" → Unchanged ("\"" ++ body ++ "\"").toList) := by
  have hmem : ';' ∈ body.toList ++ ['"', ';'] := by simp
  obtain ⟨s, after, hbody, hs⟩ := List.eq_append_cons_of_mem hmem
  have htext : before ++ "= \"" ++ body ++ "\";" =
      String.ofList (before.toList ++ '=' :: ' ' :: '"' :: (s ++ ';' :: after)) := by
    rw [← hbody]
    simp [String.ext_iff]
  have hquoted : ("\"" ++ body ++ "\"").toList = '"' :: (body.toList ++ ['"']) := by simp
  refine ⟨String.ofList (substituteAll initializerRules ('"' :: trimRight s)), ?_, ?_⟩
  · rw [x.propertyValue_of_extract hstatic (htext ▸ hsource) (extract_quote hbefore hs after),
      initialValue_quote, trimRight_trimRight]
  · have hiff := substituteAll_quoted_eq_iff hs hbody
    rw [String.ext_iff, String.toList_ofList, hquoted]
    exact ⟨hiff.mpr, fun _ => hiff.mp⟩

/-- A property whose initializer is a text in quotes. -/
def labelProperty (body : String) : Property where
  name := "Label"
  accessibility := .publicAccess
  isStatic := false
  documentation := none
  type := ⟨"string", false, false⟩
  initializer := some ("{ get; set; } " ++ "= \"" ++ body ++ "\";")

/-- The class of that property. -/
def labelClass (body : String) : Declaration where
  name := "Port"
  kind := .plainClass
  base := none
  isStatic := false
  documentation := none
  sourceFile := "Port.cs"
  members := [.property (labelProperty body)]

/-- The names that it is written with. -/
def labelDialect : Dialect := ⟨TypeTable.standard "Tunnels", ⟨"Statics"⟩⟩

theorem Dialect.quoted_propertyValue_two_words :
    labelDialect.propertyValue (labelClass "Hello World") (labelProperty "Hello World") =
      pure (some "\"Hello World\"") := by
  obtain ⟨value, hvalue, hkept, -⟩ := labelDialect.quoted_propertyValue_iff_unchanged
    (labelClass "Hello World") (labelProperty "Hello World") rfl "{ get; set; } " "Hello World"
    (by simp) rfl
  have hself : substituteAll initializerRules ("\"" ++ "Hello World" ++ "\"").toList =
      ("\"" ++ "Hello World" ++ "\"").toList := by decide +kernel
  have hmisses := (substituteAll_eq_self_iff initializerRules_lower).mp hself
  obtain ⟨hregex, hreplace, hmember⟩ := misses_initializerRules_iff.mp hmisses
  rw [hvalue, hkept ⟨by decide, hregex, hreplace, hmember⟩]
  rfl

theorem Dialect.not_forall_quoted_propertyValue :
    ¬ ∀ (x : Dialect) (d : Declaration) (p : Property),
      (p.isStatic && !d.isStaticClass) = false → ∀ before body : String,
        (∀ c ∈ before.toList, c ≠ '=' ∧ c ≠ '\n') →
        (∀ c ∈ body.toList, c ≠ '"' ∧ c ≠ '\\' ∧ c ≠ '\n') →
        p.initializer = some (before ++ "= \"" ++ body ++ "\";") →
          x.propertyValue d p = pure (some ("\"" ++ body ++ "\"")) := by
  intro h
  have hvalue := h labelDialect (labelClass "HelloWorld") (labelProperty "HelloWorld") rfl
    "{ get; set; } " "HelloWorld" (by simp) (by simp) rfl
  have houtcome := congrArg Draft.outcome hvalue
  revert houtcome
  decide +kernel

end DataContract.Java
