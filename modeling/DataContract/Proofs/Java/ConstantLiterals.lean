/-
The literals of constants.

A literal is read from its opening quote to the first quote that no backslash
escapes.  Every constant that a file declares has a literal that ends there and
that is read as the value of the constant.  Line breaks are not escaped, so a
literal spans several lines exactly if the value does.
-/
import DataContract.Proofs.Java.Clash
import DataContract.Proofs.Java.Placement
import DataContract.Proofs.Model.Mirror
import DataContract.Proofs.Text.Substitution

namespace DataContract

/-! ### Replacing one character -/

namespace Text

lemma replaceAll_singleton (c : Char) (new s : List Char) :
    replaceAll [c] new s = s.flatMap (fun d => if d = c then new else [d]) := by
  induction s with
  | nil => rfl
  | cons d s ih =>
    rw [List.flatMap_cons, ← ih]
    by_cases hd : d = c
    · subst hd
      have hdrop : dropPrefix? [d] (d :: s) = some s := dropPrefix?_eq_some_iff.mpr rfl
      rw [if_pos rfl]
      exact Rule.substitute_of_some (Rule.consumes_literal (by simp) new)
        (by rw [Rule.literal, hdrop, Option.map_some])
    · have hdrop : dropPrefix? [c] (d :: s) = none := by
        rw [dropPrefix?_eq_none_iff, List.cons_prefix_cons]
        exact fun h => hd h.1.symm
      rw [if_neg hd]
      exact Rule.substitute_cons (by rw [Rule.literal, hdrop, Option.map_none])

end Text

namespace Java

/-! ### Reading a literal -/

/-- What stands before the first quote that is not escaped, and what stands after it.  A backslash
escapes the character after it, unless it is escaped itself. -/
def splitAtQuote? (escaped : Bool) : List Char → Option (List Char × List Char)
  | [] => none
  | c :: rest =>
    if c = '"' ∧ escaped = false then some ([], rest)
    else (splitAtQuote? (c == '\\' && !escaped) rest).map (fun p => (c :: p.1, p.2))

/-- The characters that can stand after a backslash, and what they stand for. -/
def escapes : List (Char × Char) :=
  [('\\', '\\'), ('"', '"'), ('n', '\n'), ('r', '\r')]

/-- The text for which the inside of a literal stands. -/
def unescape? (escaped : Bool) : List Char → Option (List Char)
  | [] => if escaped then none else some []
  | c :: rest =>
    if escaped then (escapes.lookup c).bind (fun d => (unescape? false rest).map (d :: ·))
    else if c = '\\' then unescape? true rest
    else (unescape? false rest).map (c :: ·)

/-- The text for which a literal stands.  It opens with a quote, and it ends with the first quote
after that which is not escaped. -/
def readLiteral? : List Char → Option (List Char)
  | [] => none
  | c :: rest =>
    if c = '"' then
      (splitAtQuote? false rest).bind (fun p => if p.2 = [] then unescape? false p.1 else none)
    else none

/-- A text has no line break in it. -/
def BreakFree (s : List Char) : Prop :=
  '\n' ∉ s ∧ '\r' ∉ s

instance (s : List Char) : Decidable (BreakFree s) :=
  inferInstanceAs (Decidable (_ ∧ _))

/-! ### Escaping -/

/-- What is written for a character. -/
def escapeChar (c : Char) : List Char :=
  if c = '\\' then ['\\', '\\'] else if c = '"' then ['\\', '"'] else [c]

lemma toList_stringLiteral (s : String) :
    (stringLiteral s).toList = '"' :: (s.toList.flatMap escapeChar ++ ['"']) := by
  -- the second pass goes over what the first one wrote, and in that there is no new quote
  have hchar : ∀ c : Char, (if c = '\\' then ['\\', '\\'] else [c]).flatMap
      (fun d => if d = '"' then ['\\', '"'] else [d]) = escapeChar c := by
    intro c
    by_cases hc : c = '\\' <;> simp [escapeChar, hc]
  rw [stringLiteral, Text.replaceAll_singleton, Text.replaceAll_singleton, List.flatMap_assoc]
  simp [hchar]

lemma splitAtQuote?_escapeChar (c : Char) (rest : List Char) :
    splitAtQuote? false (escapeChar c ++ rest) =
      (splitAtQuote? false rest).map (fun p => (escapeChar c ++ p.1, p.2)) := by
  by_cases hslash : c = '\\'
  · -- the second backslash is escaped by the first, so it leaves what follows as it is
    simp [escapeChar, splitAtQuote?, hslash, Function.comp_def]
  · by_cases hquote : c = '"'
    · simp [escapeChar, splitAtQuote?, hquote, Function.comp_def]
    · simp [escapeChar, splitAtQuote?, hslash, hquote, beq_false_of_ne hslash]

lemma splitAtQuote?_flatMap_escapeChar (s rest : List Char) :
    splitAtQuote? false (s.flatMap escapeChar ++ '"' :: rest) =
      some (s.flatMap escapeChar, rest) := by
  induction s with
  | nil => simp [splitAtQuote?]
  | cons c s ih =>
    rw [List.flatMap_cons, List.append_assoc, splitAtQuote?_escapeChar, ih, Option.map_some]

lemma unescape?_escapeChar (c : Char) (rest : List Char) :
    unescape? false (escapeChar c ++ rest) = (unescape? false rest).map (c :: ·) := by
  by_cases hslash : c = '\\'
  · have hlookup : escapes.lookup '\\' = some '\\' := rfl
    simp [escapeChar, unescape?, hlookup, hslash]
  · by_cases hquote : c = '"'
    · have hlookup : escapes.lookup '"' = some '"' := rfl
      simp [escapeChar, unescape?, hlookup, hquote]
    · simp [escapeChar, unescape?, hslash, hquote]

lemma unescape?_flatMap_escapeChar (s : List Char) :
    unescape? false (s.flatMap escapeChar) = some s := by
  induction s with
  | nil => rfl
  | cons c s ih => rw [List.flatMap_cons, unescape?_escapeChar, ih, Option.map_some]

/-- A literal is read as the text for which it was written. -/
lemma readLiteral?_stringLiteral (s : String) :
    readLiteral? (stringLiteral s).toList = some s.toList := by
  rw [toList_stringLiteral, readLiteral?, if_pos rfl, splitAtQuote?_flatMap_escapeChar]
  exact unescape?_flatMap_escapeChar s.toList

/-- Escaping neither adds nor removes a character that it does not write itself. -/
lemma mem_stringLiteral_iff {d : Char} (hslash : d ≠ '\\') (hquote : d ≠ '"') (s : String) :
    d ∈ (stringLiteral s).toList ↔ d ∈ s.toList := by
  have hchar : ∀ c : Char, d ∈ escapeChar c ↔ d = c := by
    intro c
    rw [escapeChar]
    by_cases hc : c = '\\'
    · simp [hc, hslash]
    · by_cases hc' : c = '"'
      · simp [hc', hslash, hquote]
      · simp [hc, hc']
  simp [toList_stringLiteral, List.mem_flatMap, hchar, hquote]

/-- A literal has line breaks exactly if its text has. -/
lemma breakFree_stringLiteral_iff (s : String) :
    BreakFree (stringLiteral s).toList ↔ BreakFree s.toList := by
  rw [BreakFree, BreakFree, mem_stringLiteral_iff (by decide) (by decide),
    mem_stringLiteral_iff (by decide) (by decide)]

/-! ### The constants of a class -/

/-- A text declares a constant of a name with a literal. -/
def DeclaresConstant (text name literal : String) : Prop :=
  ∃ indent isPublic type, Holds text (line indent (access isPublic ++ "static final " ++ type
    ++ " " ++ identifier name ++ " = " ++ literal ++ ";"))

/-- A file declares each constant of the classes that it renders. -/
lemma Writer.declaresConstant_of_emit {w : Writer} {config : Config} {excluded : String → Bool}
    {t : ContractType} {file : GeneratedFile} (h : (w.emit config excluded t).outcome = .ok file)
    {u : ContractType} (hu : Rendered excluded t u) (hclass : u.decl.isEnum = false)
    {c : Constant} (hc : c ∈ u.decl.constants) :
    DeclaresConstant file.text c.name (stringLiteral c.literal) := by
  obtain ⟨k, declaration, hdeclaration, hholds⟩ := exists_declaration_of_rendered h hu
  obtain ⟨d, ns⟩ := u
  obtain ⟨members, types, hmembers, -, rfl⟩ := Dialect.type_of_class hclass hdeclaration
  obtain ⟨constructors, properties, constants, methods, -, -, hconstants, -, rfl⟩ :=
    Dialect.members_eq_ok hmembers
  obtain ⟨member, hmember, hdraft⟩ := exists_left_of_forall₂ hconstants.flip c hc
  obtain ⟨type, rfl⟩ := Dialect.constant_eq_ok hdraft
  have htext := hholds.trans (TypeDeclaration.holds_text_member
    (List.mem_append_left methods (List.mem_append_right _ hmember)))
  exact ⟨indentAt k ++ indentUnit, c.accessibility == .publicAccess, type,
    htext.trans ((Holds.refl _).append_left _)⟩

end Java

/-- An object with the tag of a constant mirrors one of the constants. -/
lemma Declaration.Mirrors.exists_constant {d : Declaration} {v o : Value} (h : d.Mirrors v)
    (ho : o ∈ v.itemsOf "members") (htag : o.field? "member" = some (.str "const_field")) :
    ∃ c ∈ d.constants, o.field? "name" = some (.str c.name) ∧
      ∃ value, o.field? "value" = some value ∧ c.literal = literalText value := by
  obtain ⟨member, hmember, hmirrors⟩ := Java.exists_left_of_forall₂ h.members o ho
  have hkind := hmirrors.kind.symm.trans htag
  cases member with
  | constant c =>
    refine ⟨c, List.mem_filterMap.mpr ⟨_, hmember, rfl⟩, ?_, hmirrors.body.2⟩
    exact (Option.or_none).symm.trans hmirrors.head.name
  | property p => simp [Member.kind, MemberKind.word] at hkind
  | enumValue e => simp [Member.kind, MemberKind.word] at hkind
  | method f => simp [Member.kind, MemberKind.word] at hkind
  | constructor f => simp [Member.kind, MemberKind.word] at hkind

namespace Generator

open Java

/-- **The literal of a constant is read as its value.**  For each type object that a type at the
top has in it, and that a file renders as a class, the file declares each constant of the object,
with a literal that ends at the first quote that is not escaped and that is read as the text of the
value.  The literal has no line break exactly if the text has none. -/
theorem constants_read_as_values {v : Value} {m : Model} (hm : Model.ofValue v = .ok m)
    {config : Config} {g : Generator} (hg : create m config "java" = .ok g) {t : ContractType}
    (ht : t ∈ m.types) {file : GeneratedFile} (hfile : (g.emit t).outcome = .ok file) :
    ∃ types, v.field? "types" = some (.list types) ∧ ∃ top ∈ types,
      List.Forall₂ (fun u s => u.Mirrors s ∧
        (Rendered config.excludes t u → u.decl.isEnum = false →
          ∀ o ∈ s.object.itemsOf "members", o.field? "member" = some (.str "const_field") →
            ∃ name value literal, o.field? "name" = some (.str name) ∧
              o.field? "value" = some value ∧ DeclaresConstant file.text name literal ∧
              readLiteral? literal.toList = some (literalText value).toList ∧
              (BreakFree literal.toList ↔ BreakFree (literalText value).toList)))
        t.walk top.typeSites := by
  obtain ⟨ns, rfl⟩ := eq_of_create hg
  obtain ⟨types, htypes, top, htop, hmirrors⟩ := Model.exists_typeSites_mirrored hm ht
  refine ⟨types, htypes, top, htop, hmirrors.imp ?_⟩
  refine fun u s hus => ⟨hus, ?_⟩
  intro hu hclass o ho htag
  obtain ⟨c, hc, hname, value, hvalue, hliteral⟩ := hus.decl.exists_constant ho htag
  have hdeclares := Writer.declaresConstant_of_emit hfile hu hclass hc
  rw [hliteral] at hdeclares
  exact ⟨c.name, value, stringLiteral (literalText value), hname, hvalue, hdeclares,
    readLiteral?_stringLiteral _, breakFree_stringLiteral_iff _⟩

/-- A constant with quotes and a line break in its value. -/
def brokenConstant : Value :=
  .map [(.str "member", .str "const_field"), (.str "name", .str "Greeting"),
    (.str "type", .str "string"), (.str "value", .str "\"a\"\nb")]

/-- A class with that constant. -/
def brokenClass : Value :=
  .map [(.str "name", .str "Texts"), (.str "source_file", .str "Texts.cs"),
    (.str "members", .list [brokenConstant])]

/-- A document with that class. -/
def brokenExample : Value :=
  .map [(.str "ir_version", .str "1.0"), (.str "namespace", .str "Tunnels"),
    (.str "types", .list [brokenClass])]

lemma brokenExample_written :
    ∃ m g t file, Model.ofValue brokenExample = .ok m ∧ create m .default "java" = .ok g ∧
      t ∈ m.types ∧ (g.emit t).outcome = .ok file ∧ t.decl.isEnum = false ∧
      ∃ c ∈ t.decl.constants, ¬ BreakFree (stringLiteral c.literal).toList := by
  have hwrites : writesWith brokenExample (fun _ _ t => !t.decl.isEnum &&
      t.decl.constants.any (fun c =>
        !decide (BreakFree (stringLiteral c.literal).toList))) = true := by
    decide +kernel
  obtain ⟨m, g, t, file, hm, hg, ht, hfile, hcheck⟩ := exists_of_writesWith hwrites
  simp only [Bool.and_eq_true, Bool.not_eq_true', List.any_eq_true,
    decide_eq_false_iff_not] at hcheck
  exact ⟨m, g, t, file, hm, hg, ht, hfile, hcheck.1, hcheck.2⟩

theorem constant_of_brokenExample :
    ∃ m g t file literal, Model.ofValue brokenExample = .ok m ∧
      create m .default "java" = .ok g ∧ t ∈ m.types ∧ (g.emit t).outcome = .ok file ∧
      DeclaresConstant file.text "Greeting" literal ∧
      readLiteral? literal.toList = some "\"a\"\nb".toList ∧ ¬ BreakFree literal.toList := by
  obtain ⟨m, g, t, file, hm, hg, ht, hfile, hclass, -⟩ := brokenExample_written
  obtain ⟨types, htypes, top, htop, hmirrors⟩ := constants_read_as_values hm hg ht hfile
  cases htypes
  obtain rfl := List.mem_singleton.mp htop
  rw [ContractType.walk_eq_cons, Value.typeSites, Value.typeSitesFrom_eq] at hmirrors
  obtain ⟨⟨-, hconstants⟩, -⟩ := List.forall₂_cons.mp hmirrors
  obtain ⟨name, value, literal, hname, hvalue, hdeclares, hread, hbroken⟩ :=
    hconstants .self hclass brokenConstant (List.mem_singleton_self _) rfl
  cases hname
  cases hvalue
  exact ⟨m, g, t, file, literal, hm, hg, ht, hfile, hdeclares, hread,
    hbroken.not.mpr (by decide)⟩

/-- Not every constant has a literal on one line. -/
theorem not_forall_literals_breakFree :
    ¬ ∀ (v : Value) (m : Model) (config : Config) (g : Generator) (t u : ContractType)
        (file : GeneratedFile),
      Model.ofValue v = .ok m → create m config "java" = .ok g → t ∈ m.types →
        (g.emit t).outcome = .ok file → Rendered config.excludes t u → u.decl.isEnum = false →
          ∀ c ∈ u.decl.constants, BreakFree (stringLiteral c.literal).toList := by
  intro h
  obtain ⟨m, g, t, file, hm, hg, ht, hfile, hclass, c, hc, hbroken⟩ := brokenExample_written
  exact hbroken (h _ m _ g t t file hm hg ht hfile .self hclass c hc)

end Generator

end DataContract
