/-
Where the declarations of a file stand in its text.

Every type that a file renders has a declaration of its own, at the indent of its
level, and the text of that declaration is a part of the text of the file.  In the
text of a class there is the text of each of its members.
-/
import DataContract.Proofs.Java.Balance
import DataContract.Proofs.Java.Writing

namespace DataContract.Java

/-! ### Parts of texts -/

/-- A text holds another one. -/
def Holds (text part : String) : Prop :=
  ∃ before after, text = before ++ part ++ after

namespace Holds

variable {text part : String}

lemma refl (text : String) : Holds text text :=
  ⟨"", "", by simp⟩

lemma trans {inner : String} (h : Holds text part) (h' : Holds part inner) :
    Holds text inner := by
  obtain ⟨before, after, rfl⟩ := h
  obtain ⟨before', after', rfl⟩ := h'
  exact ⟨before ++ before', after' ++ after, by simp only [String.append_assoc]⟩

lemma append_left (h : Holds text part) (s : String) : Holds (s ++ text) part := by
  obtain ⟨before, after, rfl⟩ := h
  exact ⟨s ++ before, after, by simp only [String.append_assoc]⟩

lemma append_right (h : Holds text part) (s : String) : Holds (text ++ s) part := by
  obtain ⟨before, after, rfl⟩ := h
  exact ⟨before, after ++ s, by simp only [String.append_assoc]⟩

lemma join {parts : List String} (h : part ∈ parts) : Holds (String.join parts) part := by
  induction parts with
  | nil => cases h
  | cons first rest ih =>
    rw [String.join_cons]
    obtain rfl | h := List.mem_cons.mp h
    · exact (refl part).append_right _
    · exact (ih h).append_left first

end Holds

/-! ### Declarations in declarations -/

namespace TypeDeclaration

variable {docs : Javadoc} {indent : String} {head : TypeHead} {members : List ClassMember}
  {nested : List TypeDeclaration}

lemma holds_nestedText {t : TypeDeclaration} (h : t ∈ nested) :
    Holds (nestedText docs indent nested) (t.text docs indent) := by
  induction nested with
  | nil => cases h
  | cons first rest ih =>
    rw [nestedText]
    obtain rfl | h := List.mem_cons.mp h
    · exact ((Holds.refl _).append_left _).append_right _
    · exact (ih h).append_left _

/-- The text of a class holds those of the types nested in it. -/
lemma holds_text_nested {t : TypeDeclaration} (h : t ∈ nested) :
    Holds ((classType head members nested).text docs indent)
      (t.text docs (indent ++ indentUnit)) := by
  rw [text]
  exact ((holds_nestedText h).append_left _).append_right _

/-- The text of a class holds those of its members. -/
lemma holds_text_member {m : ClassMember} (h : m ∈ members) :
    Holds ((classType head members nested).text docs indent)
      (m.text docs (indent ++ indentUnit)) := by
  rw [text]
  exact (((Holds.join (List.mem_map_of_mem h)).append_left _).append_right _).append_right _

end TypeDeclaration

/-! ### The members of a class -/

namespace Dialect

variable {x : Dialect} {d : Declaration} {member : ClassMember}

lemma property_eq_ok {p : Property} (h : (x.property d p).outcome = .ok member) :
    ∃ type value, member = .field ⟨p.documentation, p.accessibility == .publicAccess, p.isStatic,
      type, identifier p.name, value⟩ := by
  rw [property] at h
  obtain ⟨type, -, h⟩ := Draft.bind_eq_ok h
  obtain ⟨value, -, h⟩ := Draft.bind_eq_ok h
  cases h
  exact ⟨type, value, rfl⟩

lemma constant_eq_ok {c : Constant} (h : (x.constant d c).outcome = .ok member) :
    ∃ type, member = .constant ⟨c.documentation, c.accessibility == .publicAccess, type,
      identifier c.name, c.literal⟩ := by
  rw [constant] at h
  obtain ⟨type, -, h⟩ := Draft.bind_eq_ok h
  cases h
  exact ⟨type, rfl⟩

lemma method_eq_ok {m : Method} (h : (x.method d m).outcome = .ok member) :
    ∃ type ps, (x.parameters (d.name ++ "." ++ m.name) m.parameters).outcome = .ok ps ∧
      member = .method ⟨m.documentation, type, identifier m.name, ps,
        x.companion.call d.name (identifier m.name) (ps.map (·.name))⟩ := by
  rw [method] at h
  obtain ⟨type, -, h⟩ := Draft.bind_eq_ok h
  obtain ⟨ps, hps, h⟩ := Draft.bind_eq_ok h
  cases h
  exact ⟨type, ps, hps, rfl⟩

end Dialect

/-! ### The types of a file -/

variable {excluded : String → Bool}

/-- The declaration of a type that is rendered, and its text in that of the whole. -/
lemma Dialect.exists_declaration_of_mem {x : Dialect} (docs : Javadoc) {k : Nat} {t : ContractType}
    {type : TypeDeclaration} (h : (x.type excluded (k != 0) t).outcome = .ok type)
    {p : Nat × ContractType} (hp : p ∈ renderLevels excluded k t) :
    ∃ declaration, (x.type excluded (p.1 != 0) p.2).outcome = .ok declaration ∧
      Holds (type.text docs (indentAt k)) (declaration.text docs (indentAt p.1)) := by
  induction t using ContractType.nestedInduction generalizing k type with
  | mk d ns ih =>
    rw [renderLevels, List.mem_cons] at hp
    obtain rfl | hp := hp
    · exact ⟨type, h, .refl _⟩
    · cases hd : d.isEnum with
      | true =>
        rw [hd, if_pos rfl] at hp
        cases hp
      | false =>
        rw [hd, if_neg Bool.false_ne_true, renderLevelsAll_eq, List.mem_flatMap] at hp
        obtain ⟨n, hn, hp⟩ := hp
        obtain ⟨members, types, -, htypes, rfl⟩ := type_of_class hd h
        obtain ⟨inner, hinner, hdraft⟩ := exists_left_of_forall₂ (types_eq_ok htypes).flip n hn
        obtain ⟨declaration, hdeclaration, hholds⟩ :=
          ih n (List.mem_of_mem_filter hn) (k := k + 1) hdraft hp
        exact ⟨declaration, hdeclaration, (TypeDeclaration.holds_text_nested hinner).trans hholds⟩

/-- The declaration of a type that a file renders, and its text in that of the file. -/
lemma Writer.exists_declaration_of_rendered {w : Writer} {config : Config} {t : ContractType}
    {file : GeneratedFile} (h : (w.emit config excluded t).outcome = .ok file) {u : ContractType}
    (hu : Rendered excluded t u) :
    ∃ k declaration, (w.toDialect.type excluded (k != 0) u).outcome = .ok declaration ∧
      Holds file.text (declaration.text w.docs (indentAt k)) := by
  obtain ⟨-, type, htype, rfl⟩ := emit_eq_ok_iff.mp h
  rw [← mem_renderOrder_iff, ← map_snd_renderLevels 0] at hu
  obtain ⟨⟨k, u⟩, hk, rfl⟩ := List.mem_map.mp hu
  obtain ⟨declaration, hdeclaration, hholds⟩ := Dialect.exists_declaration_of_mem w.docs htype hk
  rw [text_assemble]
  exact ⟨k, declaration, hdeclaration, hholds.append_left _⟩

end DataContract.Java
