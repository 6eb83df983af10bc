/-
The names that the declarations of a type have.

The fields and constants of a class, and the constants of an enumeration, have the
names of the contract with the first letter in lower case.  Nothing else keeps
them apart from each other or from the words of the language: two names meet
exactly if they differ in the case of their first letter only, and a name becomes
a reserved word exactly if it is one, or one with a capital.
-/
import DataContract.Proofs.Java.Clash
import DataContract.Proofs.Java.Initializers
import DataContract.Proofs.Java.Placement
import DataContract.Proofs.Java.TypeNames

namespace DataContract

/-! ### Names -/

/-- The names in a contract of what a type declares in Java without parameters. -/
def Declaration.declaredNames (d : Declaration) : List String :=
  if d.isEnum then d.enumValues.map (fun v => v.name)
  else d.properties.map (fun p => p.name) ++ d.constants.map (fun c => c.name)

/-- The names in a contract of all members that have no parameters. -/
def Declaration.plainMemberNames (d : Declaration) : List String :=
  d.properties.map (fun p => p.name) ++ d.constants.map (fun c => c.name)
    ++ d.enumValues.map (fun v => v.name)

namespace Java

open Text

/-- An identifier of ASCII characters. -/
def IsPlainName (s : String) : Prop :=
  Pattern.Headed Pattern.isNameStart isAsciiWord s.toList

instance (s : String) : Decidable (IsPlainName s) :=
  decidable_of_iff _ Pattern.isHeaded_iff

/-- A name starts with a capital, and another one is the same with a small letter there. -/
def LowersTo (name other : String) : Prop :=
  ∃ c rest, isCapital c = true ∧ name = String.ofList (c :: rest) ∧
    other = String.ofList (c.toLower :: rest)

/-- The words that are no identifiers in Java: the keywords and the literals. -/
def reservedWords : List String :=
  ["abstract", "assert", "boolean", "break", "byte", "case", "catch", "char", "class", "const",
    "continue", "default", "do", "double", "else", "enum", "extends", "final", "finally", "float",
    "for", "goto", "if", "implements", "import", "instanceof", "int", "interface", "long", "native",
    "new", "package", "private", "protected", "public", "return", "short", "static", "strictfp",
    "super", "switch", "synchronized", "this", "throw", "throws", "transient", "try", "void",
    "volatile", "while", "_", "true", "false", "null"]

namespace LowersTo

variable {a b c : String}

lemma left_unique (ha : LowersTo a c) (hb : LowersTo b c) : a = b := by
  obtain ⟨x, s, hx, rfl, rfl⟩ := ha
  obtain ⟨y, t, hy, rfl, hc⟩ := hb
  obtain ⟨hletter, rfl⟩ := List.cons.inj (String.ofList_injective hc)
  have hcode : x.toNat + 32 = y.toNat + 32 := by
    rw [← toNat_toLower (isCapital_iff.mp hx), ← toNat_toLower (isCapital_iff.mp hy), hletter]
  obtain rfl : x = y := Char.toNat_inj.mp (Nat.add_right_cancel hcode)
  rfl

lemma right_unique (hb : LowersTo a b) (hc : LowersTo a c) : b = c := by
  obtain ⟨x, s, -, rfl, rfl⟩ := hb
  obtain ⟨y, t, -, ha, rfl⟩ := hc
  obtain ⟨rfl, rfl⟩ := List.cons.inj (String.ofList_injective ha)
  rfl

/-- A name that was lowered has no capital at its start. -/
lemma not_lowersTo (h : LowersTo a b) : ¬ LowersTo b c := by
  obtain ⟨x, s, hx, rfl, rfl⟩ := h
  rintro ⟨y, t, hy, hb, -⟩
  obtain ⟨rfl, -⟩ := List.cons.inj (String.ofList_injective hb)
  have hx := isCapital_iff.mp hx
  have hy := isCapital_iff.mp hy
  rw [toNat_toLower hx] at hy
  omega

/-- No reserved word has a capital at its start. -/
lemma notMem_reservedWords (h : LowersTo a b) : a ∉ reservedWords := by
  have hwords : reservedWords.all (fun w => !w.toList.head?.any isCapital) = true := by
    decide +kernel
  obtain ⟨x, s, hx, rfl, rfl⟩ := h
  intro hmem
  have hword := List.all_eq_true.mp hwords _ hmem
  simp [hx] at hword

end LowersTo

/-- A plain name has a capital at its start and is lowered, or it has none and stays. -/
lemma lowersTo_identifier_or_eq {s : String} (h : IsPlainName s) :
    LowersTo s (identifier s) ∨ identifier s = s ∧ ∀ t, ¬ LowersTo s t := by
  obtain ⟨c, rest, hs, hc, -⟩ := h
  obtain rfl : s = String.ofList (c :: rest) := by rw [← hs, String.ofList_toList]
  cases hcapital : isCapital c with
  | true =>
    refine .inl ⟨c, rest, hcapital, rfl, ?_⟩
    rw [← identifier_of_isCapital hcapital, String.ofList_toList]
  | false =>
    have hascii : c.toNat < 0x80 := toNat_lt_of_isAsciiWord (Pattern.isAsciiWord_of_isNameStart hc)
    have hlower : c.toLower = c :=
      toLower_eq_self (fun hrange => Bool.eq_false_iff.mp hcapital (isCapital_iff.mpr hrange))
    refine .inr ⟨by simp [identifier, lower, hascii, hlower], ?_⟩
    rintro t ⟨d, rest', hd, heq, -⟩
    obtain ⟨rfl, -⟩ := List.cons.inj (String.ofList_injective heq)
    rw [hcapital] at hd
    cases hd

/-- Two names meet exactly if one is the other with a small letter at the start. -/
lemma identifier_eq_identifier_iff {a b : String} (ha : IsPlainName a) (hb : IsPlainName b)
    (hne : a ≠ b) : identifier a = identifier b ↔ LowersTo a b ∨ LowersTo b a := by
  rcases lowersTo_identifier_or_eq ha with hla | ⟨heqa, hka⟩
  · rcases lowersTo_identifier_or_eq hb with hlb | ⟨heqb, hkb⟩
    · -- both lose a capital: a name comes from one capital only, and neither is the other lowered
      constructor
      · intro heq
        rw [heq] at hla
        exact absurd (hla.left_unique hlb) hne
      · rintro (h | h)
        · exact absurd hlb h.not_lowersTo
        · exact absurd hla h.not_lowersTo
    · rw [heqb, or_iff_left (hkb a)]
      exact ⟨fun heq => heq ▸ hla, fun h => hla.right_unique h⟩
  · rw [heqa, or_iff_right (hka b)]
    rcases lowersTo_identifier_or_eq hb with hlb | ⟨heqb, hkb⟩
    · exact ⟨fun heq => heq ▸ hlb, fun h => h.right_unique hlb⟩
    · rw [heqb]
      exact ⟨fun heq => absurd heq hne, fun h => absurd h (hkb a)⟩

/-- A name becomes a reserved word exactly if it is one, or one with a capital at the start. -/
lemma identifier_mem_reservedWords_iff {s : String} (h : IsPlainName s) :
    identifier s ∈ reservedWords ↔ s ∈ reservedWords ∨ ∃ w ∈ reservedWords, LowersTo s w := by
  rcases lowersTo_identifier_or_eq h with hlowers | ⟨heq, hkept⟩
  · rw [or_iff_right hlowers.notMem_reservedWords]
    constructor
    · exact fun hmem => ⟨_, hmem, hlowers⟩
    · rintro ⟨w, hw, hs⟩
      rwa [hlowers.right_unique hs]
  · rw [heq, or_iff_left]
    rintro ⟨w, -, hs⟩
    exact hkept w hs

/-- Distinct names stay distinct exactly if none of them is another one with a capital. -/
lemma nodup_map_identifier_iff {names : List String} (hnodup : names.Nodup)
    (hplain : ∀ name ∈ names, IsPlainName name) :
    (names.map identifier).Nodup ↔ ∀ a ∈ names, ∀ b ∈ names, ¬ LowersTo a b := by
  rw [List.nodup_map_iff_inj_on hnodup]
  constructor
  · intro hinj a ha b hb hlowers
    have hne : a ≠ b := by
      rintro rfl
      exact hlowers.not_lowersTo hlowers
    exact hne (hinj a ha b hb
      ((identifier_eq_identifier_iff (hplain a ha) (hplain b hb) hne).mpr (.inl hlowers)))
  · intro hlowers a ha b hb heq
    by_contra hne
    rcases (identifier_eq_identifier_iff (hplain a ha) (hplain b hb) hne).mp heq with h | h
    · exact hlowers a ha b hb h
    · exact hlowers b hb a ha h

/-- No name becomes a reserved word exactly if none is one, nor one with a capital. -/
lemma forall_map_identifier_notMem_iff {names : List String}
    (hplain : ∀ name ∈ names, IsPlainName name) :
    (∀ name ∈ names.map identifier, name ∉ reservedWords) ↔
      ∀ a ∈ names, a ∉ reservedWords ∧ ∀ w ∈ reservedWords, ¬ LowersTo a w := by
  rw [List.forall_mem_map]
  refine forall₂_congr (fun a ha => ?_)
  rw [identifier_mem_reservedWords_iff (hplain a ha), not_or, not_exists]
  simp only [not_and]

/-! ### Declarations -/

/-- The identifier that a field or a constant declares. -/
def ClassMember.identifier? : ClassMember → Option String
  | .field f => some f.name
  | .constant c => some c.name
  | .constructor _ => none
  | .method _ => none

/-- The identifiers of the fields and constants that a type declares itself. -/
def TypeDeclaration.identifiers : TypeDeclaration → List String
  | .enumeration _ constants => constants.map (fun c => c.name)
  | .classType _ members _ => members.filterMap ClassMember.identifier?

lemma filterMap_of_forall₂ {α β γ : Type} {R : α → β → Prop} {l : List α} {l' : List β}
    (h : List.Forall₂ R l l') {f : β → Option γ} {g : α → γ}
    (hfg : ∀ a b, R a b → f b = some (g a)) : l'.filterMap f = l.map g := by
  induction h with
  | nil => rfl
  | cons hab _ ih => rw [List.filterMap_cons_some (hfg _ _ hab), ih, List.map_cons]

namespace Dialect

variable {x : Dialect} {d : Declaration}

lemma identifier?_of_method {m : Method} {member : ClassMember}
    (h : (x.method d m).outcome = .ok member) : member.identifier? = none := by
  obtain ⟨type, ps, -, rfl⟩ := method_eq_ok h
  rfl

lemma filterMap_identifier?_of_constructor {c : Constructor} {ms : List ClassMember}
    (h : (x.constructor d c).outcome = .ok ms) : ms.filterMap ClassMember.identifier? = [] := by
  obtain ⟨ps, -, rfl⟩ := constructor_eq_ok h
  split <;> rfl

/-- The fields and constants of a class have the names of the properties and constants. -/
lemma filterMap_identifier?_of_members {members : List ClassMember}
    (h : (x.members d).outcome = .ok members) :
    members.filterMap ClassMember.identifier? =
      (d.properties.map (fun p => p.name) ++ d.constants.map (fun c => c.name)).map identifier := by
  obtain ⟨constructors, properties, constants, methods, hconstructors, hproperties, hconstants,
    hmethods, rfl⟩ := members_eq_ok h
  -- constructors and methods declare no field, so the properties and the constants are left
  have hcs : constructors.flatten.filterMap ClassMember.identifier? = [] := by
    rw [List.filterMap_flatten, List.flatten_eq_nil_iff]
    intro l hl
    obtain ⟨ms, hms, rfl⟩ := List.mem_map.mp hl
    obtain ⟨c, -, hdraft⟩ := exists_left_of_forall₂ hconstructors ms hms
    exact filterMap_identifier?_of_constructor hdraft
  have hps : properties.filterMap ClassMember.identifier? =
      d.properties.map (fun p => identifier p.name) := by
    refine filterMap_of_forall₂ hproperties (fun p member hdraft => ?_)
    obtain ⟨type, value, rfl⟩ := property_eq_ok hdraft
    rfl
  have hks : constants.filterMap ClassMember.identifier? =
      d.constants.map (fun c => identifier c.name) := by
    refine filterMap_of_forall₂ hconstants (fun c member hdraft => ?_)
    obtain ⟨type, rfl⟩ := constant_eq_ok hdraft
    rfl
  have hms : methods.filterMap ClassMember.identifier? = [] :=
    filterMap_eq_nil_of_forall₂ hmethods (fun f member hdraft => identifier?_of_method hdraft)
  rw [List.filterMap_append, List.filterMap_append, List.filterMap_append, hcs, hps, hks, hms,
    List.nil_append, List.append_nil, List.map_append, List.map_map, List.map_map]
  rfl

/-- What a type declares has the names of the contract with a small letter at the start. -/
lemma identifiers_of_type {excluded : String → Bool} {isNested : Bool} {u : ContractType}
    {declaration : TypeDeclaration} (h : (x.type excluded isNested u).outcome = .ok declaration) :
    declaration.identifiers = u.decl.declaredNames.map identifier := by
  obtain ⟨d, ns⟩ := u
  rw [ContractType.decl, Declaration.declaredNames]
  cases hd : d.isEnum with
  | true =>
    rw [type_of_enum hd h, if_pos rfl, TypeDeclaration.identifiers, List.map_map, List.map_map]
    rfl
  | false =>
    obtain ⟨members, types, hmembers, -, rfl⟩ := type_of_class hd h
    exact filterMap_identifier?_of_members hmembers

end Dialect

end Java

/-! ### Files -/

namespace Generator

open Java

/-- **The names that a type declares meet, or are reserved, exactly if the names in the contract
do so but for a capital at the start.**  Let the names of the properties and constants of a class,
or of the values of an enumeration, be distinct identifiers of ASCII characters.  The declaration
of the type in the file has these names, each with a small letter at the start.  They are distinct
exactly if no two names in the contract differ in the case of the first letter only, and none is a
reserved word exactly if no name in the contract is one or would be one with a small letter at the
start. -/
theorem identifiers_usable_iff {m : Model} {config : Config} {g : Generator}
    (hg : create m config "java" = .ok g) {t : ContractType} {file : GeneratedFile}
    (hfile : (g.emit t).outcome = .ok file) {u : ContractType}
    (hu : Rendered config.excludes t u) (hnodup : u.decl.declaredNames.Nodup)
    (hplain : ∀ name ∈ u.decl.declaredNames, IsPlainName name) :
    ∃ (k : Nat) (declaration : TypeDeclaration),
      Holds file.text (declaration.text g.writer.docs (indentAt k)) ∧
      declaration.head.name = u.name ∧
      declaration.identifiers = u.decl.declaredNames.map identifier ∧
      (declaration.identifiers.Nodup ↔
        ∀ a ∈ u.decl.declaredNames, ∀ b ∈ u.decl.declaredNames, ¬ LowersTo a b) ∧
      ((∀ name ∈ declaration.identifiers, name ∉ reservedWords) ↔
        ∀ a ∈ u.decl.declaredNames,
          a ∉ reservedWords ∧ ∀ w ∈ reservedWords, ¬ LowersTo a w) := by
  obtain ⟨ns, rfl⟩ := eq_of_create hg
  obtain ⟨k, declaration, hdeclaration, hholds⟩ := Writer.exists_declaration_of_rendered hfile hu
  have hnames := Dialect.identifiers_of_type hdeclaration
  refine ⟨k, declaration, hholds, ?_, hnames, ?_, ?_⟩
  · obtain ⟨d, nested⟩ := u
    rw [Dialect.head_of_type hdeclaration]
    exact name_headOf _ _
  · rw [hnames]
    exact nodup_map_identifier_iff hnodup hplain
  · rw [hnames]
    exact forall_map_identifier_notMem_iff hplain

/-- A class with two names that meet and a name that becomes a keyword. -/
def meetingExample : Value :=
  .map [(.str "ir_version", .str "1.0"), (.str "namespace", .str "Tunnels"),
    (.str "types", .list [.map [(.str "name", .str "Words"), (.str "source_file", .str "Words.cs"),
      (.str "members", .list [
        .map [(.str "member", .str "property"), (.str "name", .str "Class"),
          (.str "type", .str "string")],
        .map [(.str "member", .str "property"), (.str "name", .str "name"),
          (.str "type", .str "int")],
        .map [(.str "member", .str "const_field"), (.str "name", .str "Name"),
          (.str "type", .str "string"), (.str "value", .str "a")]])]])]

lemma meetingExample_written :
    ∃ m g t file, Model.ofValue meetingExample = .ok m ∧ create m .default "java" = .ok g ∧
      t ∈ m.types ∧ (g.emit t).outcome = .ok file ∧
      t.decl.declaredNames = ["Class", "name", "Name"] ∧
      ∀ w ∈ ContractType.walkAll m.types, w.decl.plainMemberNames = ["Class", "name", "Name"] := by
  have hwrites : writesWith meetingExample (fun m _ t =>
      t.decl.declaredNames = ["Class", "name", "Name"] &&
        (ContractType.walkAll m.types).all (fun w =>
          w.decl.plainMemberNames = ["Class", "name", "Name"])) = true := by
    decide +kernel
  obtain ⟨m, g, t, file, hm, hg, ht, hfile, hcheck⟩ := exists_of_writesWith hwrites
  simp only [Bool.and_eq_true, decide_eq_true_eq, List.all_eq_true] at hcheck
  exact ⟨m, g, t, file, hm, hg, ht, hfile, hcheck.1, hcheck.2⟩

lemma meetingExample_plain :
    ["Class", "name", "Name"].Nodup ∧ ∀ name ∈ ["Class", "name", "Name"], IsPlainName name := by
  decide

theorem identifiers_of_meetingExample :
    ∃ (m : Model) (g : Generator) (t : ContractType) (file : GeneratedFile) (k : Nat)
        (declaration : TypeDeclaration),
      Model.ofValue meetingExample = .ok m ∧ create m .default "java" = .ok g ∧ t ∈ m.types ∧
      (g.emit t).outcome = .ok file ∧
      Holds file.text (declaration.text g.writer.docs (indentAt k)) ∧
      ¬ declaration.identifiers.Nodup ∧
        ¬ ∀ name ∈ declaration.identifiers, name ∉ reservedWords := by
  obtain ⟨m, g, t, file, hm, hg, ht, hfile, hnames, -⟩ := meetingExample_written
  have hplain := meetingExample_plain
  rw [← hnames] at hplain
  obtain ⟨k, declaration, hholds, -, -, hmeet, hreserved⟩ :=
    identifiers_usable_iff hg hfile .self hplain.1 hplain.2
  rw [hnames] at hmeet hreserved
  have hname : LowersTo "Name" "name" := ⟨'N', ['a', 'm', 'e'], by decide, by decide, by decide⟩
  have hclass : LowersTo "Class" "class" :=
    ⟨'C', ['l', 'a', 's', 's'], by decide, by decide, by decide⟩
  refine ⟨m, g, t, file, k, declaration, hm, hg, ht, hfile, hholds, ?_, ?_⟩
  · rw [hmeet]
    exact fun h => h "Name" (by simp) "name" (by simp) hname
  · rw [hreserved]
    exact fun h => (h "Class" (by simp)).2 "class" (by simp [reservedWords]) hclass

/-- Distinct plain names in all types of a contract do not keep what a file declares from being
declared twice or under a keyword. -/
theorem not_forall_identifiers_usable :
    ¬ ∀ (v : Value) (m : Model) (config : Config) (g : Generator) (t u : ContractType)
        (file : GeneratedFile),
      Model.ofValue v = .ok m →
        (∀ w ∈ ContractType.walkAll m.types, w.decl.plainMemberNames.Nodup ∧
          ∀ name ∈ w.decl.plainMemberNames, IsPlainName name) →
        create m config "java" = .ok g → t ∈ m.types → (g.emit t).outcome = .ok file →
          Rendered config.excludes t u →
            (u.decl.declaredNames.map identifier).Nodup ∧
              ∀ name ∈ u.decl.declaredNames.map identifier, name ∉ reservedWords := by
  intro h
  obtain ⟨m, g, t, file, hm, hg, ht, hfile, hnames, hall⟩ := meetingExample_written
  have husable := h _ m _ g t t file hm (fun w hw => (hall w hw).symm ▸ meetingExample_plain)
    hg ht hfile .self
  rw [hnames] at husable
  have hclass : "class" ∈ ["Class", "name", "Name"].map identifier := by decide
  exact husable.2 _ hclass (by simp [reservedWords])

end Generator

end DataContract
