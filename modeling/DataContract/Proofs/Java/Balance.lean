/-
Balance of the text of a type.

The text of a declaration in Java is its documentation, the line of its head up
to an opening brace, what lies within, and its end.  What lies within is empty
exactly if nothing of the type is rendered, and otherwise it ends with a line.
If what is copied for a type and for the types that are rendered in it is
balanced, then so are their texts, at every level.
-/
import DataContract.Proofs.Java.Fragments

namespace DataContract.Java

open DataContract.Text (Balanced braceDepth)

/-! ### Lines -/

/-- A text ends with a line. -/
def EndsLine (s : String) : Prop :=
  ∃ lines, s = lines ++ "\n"

lemma EndsLine.append {s : String} (hs : EndsLine s) (t : String) : EndsLine (t ++ s) := by
  obtain ⟨lines, rfl⟩ := hs
  exact ⟨t ++ lines, by rw [String.append_assoc]⟩

lemma EndsLine.ne_empty {s : String} (hs : EndsLine s) : s ≠ "" := by
  obtain ⟨lines, rfl⟩ := hs
  simp

lemma endsLine_line (indent s : String) : EndsLine (line indent s) :=
  ⟨indent ++ s, rfl⟩

/-- Texts that end with a line do so together, if there are any. -/
lemma endsLine_join {l : List String} (hne : l ≠ []) (h : ∀ s ∈ l, EndsLine s) :
    EndsLine (String.join l) := by
  induction l with
  | nil => exact absurd rfl hne
  | cons s rest ih =>
    rw [List.forall_mem_cons] at h
    rw [String.join_cons]
    cases rest with
    | nil => simpa [String.join_nil] using h.1
    | cons t rest => exact (ih (by simp) h.2).append s

lemma endsLine_ofLines (lines : List (List Char)) (last : List Char) :
    EndsLine (String.ofList ((lines ++ [last]).flatMap (· ++ ['\n']))) :=
  ⟨String.ofList (lines.flatMap (· ++ ['\n']) ++ last), String.toList_inj.mp (by simp)⟩

/-- A block of documentation is empty or ends with a line. -/
lemma Javadoc.block_cases (docs : Javadoc) (indent : String) (comment : Option String) :
    docs.block indent comment = "" ∨ EndsLine (docs.block indent comment) := by
  cases comment with
  | none => exact .inl rfl
  | some comment =>
    rw [block]
    split
    · exact .inl rfl
    · exact .inr (endsLine_ofLines _ _)

/-- The indent at a level. -/
def indentAt : Nat → String
  | 0 => ""
  | k + 1 => indentAt k ++ indentUnit

lemma balanced_indentAt (k : Nat) : Balanced (indentAt k) := by
  induction k with
  | zero => exact .plain rfl
  | succ k ih => exact ih.append (.plain rfl)

/-! ### The parts of a declaration -/

lemma ClassMember.endsLine_text (docs : Javadoc) (indent : String) (m : ClassMember) :
    EndsLine (m.text docs indent) := by
  refine EndsLine.append ?_ _
  cases m with
  | constructor c => exact (endsLine_line _ _).append _
  | field f => exact (endsLine_line _ _).append _
  | constant c => exact endsLine_line _ _
  | method m => exact (endsLine_line _ _).append _

lemma EnumConstant.endsLine_text (docs : Javadoc) (indent : String) (c : EnumConstant) :
    EndsLine (c.text docs indent) :=
  (endsLine_line _ _).append _

namespace TypeHead

/-- The line that opens a type, up to its brace. -/
def opening (indent : String) (h : TypeHead) : String :=
  indent ++ h.keywords ++ " " ++ h.name
    ++ (match h.base with
      | some base => " extends " ++ base
      | none => "")
    ++ " "

/-- The line that opens a type, without its documentation. -/
def line (indent : String) (h : TypeHead) : String :=
  h.opening indent ++ openBrace

lemma text_eq (docs : Javadoc) (indent : String) (h : TypeHead) :
    h.text docs indent = docs.block indent h.documentation ++ h.line indent := by
  obtain ⟨documentation, keywords, name, base⟩ := h
  cases base <;> simp only [text, line, opening, String.append_assoc]

lemma balanced_opening {indent : String} (hindent : Balanced indent) {h : TypeHead}
    (hkeywords : Balanced h.keywords) (hname : Balanced h.name)
    (hbase : ∀ b ∈ h.base, Balanced b) : Balanced (h.opening indent) := by
  have hstart : Balanced (indent ++ h.keywords ++ " " ++ h.name) :=
    ((hindent.append hkeywords).append (.plain rfl)).append hname
  refine (hstart.append ?_).append (.plain rfl)
  cases hb : h.base with
  | none => exact .plain rfl
  | some base => exact Balanced.append (.plain rfl) (hbase base hb)

/-- After the head of a type the text is one brace deeper. -/
lemma braceDepth_line {indent : String} {h : TypeHead} (hopening : Balanced (h.opening indent)) :
    braceDepth (h.line indent).toList = 1 := by
  have hopen : braceDepth openBrace.toList = 1 := by decide
  rw [line, String.toList_append, Text.braceDepth_append, hopening.total, hopen]
  rfl

end TypeHead

namespace TypeDeclaration

/-- What opens a declaration. -/
def head : TypeDeclaration → TypeHead
  | .enumeration head _ => head
  | .classType head _ _ => head

/-- What lies between the braces of a declaration. -/
def inner (docs : Javadoc) (indent : String) : TypeDeclaration → String
  | .enumeration _ constants =>
    String.join (constants.map (EnumConstant.text docs (indent ++ indentUnit)))
  | .classType _ members nested =>
    String.join (members.map (ClassMember.text docs (indent ++ indentUnit)))
      ++ nestedText docs (indent ++ indentUnit) nested

/-- Whether nothing lies between the braces of a declaration. -/
def isBare : TypeDeclaration → Bool
  | .enumeration _ constants => constants.isEmpty
  | .classType _ members nested => members.isEmpty && nested.isEmpty

/-- The text of a declaration: its documentation, its head, what lies within, and its end. -/
lemma text_eq (docs : Javadoc) (indent : String) (t : TypeDeclaration) :
    t.text docs indent =
      docs.block indent t.head.documentation ++ t.head.line indent ++ t.inner docs indent
        ++ closing indent t.isBare := by
  cases t with
  | enumeration h constants => rw [text, TypeHead.text_eq, head, inner, isBare]
  | classType h members nested =>
    simp only [text, TypeHead.text_eq, head, inner, isBare, String.append_assoc]

lemma endsLine_text (docs : Javadoc) (indent : String) (t : TypeDeclaration) :
    EndsLine (t.text docs indent) := by
  rw [text_eq]
  exact (endsLine_line _ _).append _

lemma endsLine_nestedText {docs : Javadoc} {indent : String} {ts : List TypeDeclaration}
    (hne : ts ≠ []) : EndsLine (nestedText docs indent ts) := by
  induction ts with
  | nil => exact absurd rfl hne
  | cons t rest ih =>
    rw [nestedText]
    cases rest with
    | nil =>
      rw [nestedText, String.append_empty]
      exact (t.endsLine_text docs indent).append "\n"
    | cons u rest => exact (ih (by simp)).append _

/-- What lies within a declaration is empty or ends with a line. -/
lemma inner_cases (docs : Javadoc) (indent : String) (t : TypeDeclaration) :
    (t.isBare = true ∧ t.inner docs indent = "") ∨
      (t.isBare = false ∧ EndsLine (t.inner docs indent)) := by
  cases t with
  | enumeration h constants =>
    cases constants with
    | nil => exact .inl ⟨rfl, rfl⟩
    | cons c rest =>
      refine .inr ⟨rfl, endsLine_join (by simp) (fun s hs => ?_)⟩
      obtain ⟨c, -, rfl⟩ := List.mem_map.mp hs
      exact c.endsLine_text docs _
  | classType h members nested =>
    cases nested with
    | cons t rest =>
      exact .inr ⟨by simp [isBare], (endsLine_nestedText (by simp)).append _⟩
    | nil =>
      cases members with
      | nil => exact .inl ⟨rfl, by simp [inner, nestedText]⟩
      | cons m rest =>
        refine .inr ⟨rfl, ?_⟩
        rw [inner, nestedText, String.append_empty]
        refine endsLine_join (by simp) (fun s hs => ?_)
        obtain ⟨m, -, rfl⟩ := List.mem_map.mp hs
        exact m.endsLine_text docs _

/-- A declaration is balanced if its head and what lies within are. -/
lemma balanced_text {docs : Javadoc} {indent : String} (hindent : Balanced indent)
    {t : TypeDeclaration} (hdoc : Balanced (docs.block indent t.head.documentation))
    (hopening : Balanced (t.head.opening indent)) (hinner : Balanced (t.inner docs indent)) :
    Balanced (t.text docs indent) := by
  have hmargin : Balanced (if t.isBare then "" else indent) := by
    split
    · exact .plain rfl
    · exact hindent
  have htext : t.text docs indent =
      docs.block indent t.head.documentation ++ t.head.opening indent
        ++ ("\x7b" ++ (t.inner docs indent ++ (if t.isBare then "" else indent)) ++ "\x7d")
        ++ "\n" := by
    simp only [text_eq, TypeHead.line, closing, line, openBrace, closeBrace, String.append_assoc]
  rw [htext]
  exact ((hdoc.append hopening).append (hinner.append hmargin).braced).append (.plain rfl)

lemma balanced_nestedText {docs : Javadoc} {indent : String} {ts : List TypeDeclaration}
    (h : ∀ t ∈ ts, Balanced (t.text docs indent)) : Balanced (nestedText docs indent ts) := by
  induction ts with
  | nil =>
    rw [nestedText]
    exact .plain rfl
  | cons t rest ih =>
    rw [List.forall_mem_cons] at h
    rw [nestedText]
    exact (Balanced.append (.plain rfl) h.1).append (ih h.2)

end TypeDeclaration

/-! ### Levels -/

mutual

/-- The types that the file of a type renders, each with its level, before what is nested in it. -/
def renderLevels (excluded : String → Bool) (k : Nat) : ContractType → List (Nat × ContractType)
  | .mk d ns => (k, .mk d ns) :: (if d.isEnum then [] else renderLevelsAll excluded (k + 1) ns)

/-- The types that are rendered for those of a list that are not excluded, with their levels. -/
def renderLevelsAll (excluded : String → Bool) (k : Nat) :
    List ContractType → List (Nat × ContractType)
  | [] => []
  | t :: rest =>
    if excluded t.name then renderLevelsAll excluded k rest
    else renderLevels excluded k t ++ renderLevelsAll excluded k rest

end

variable {excluded : String → Bool}

lemma renderLevelsAll_eq (k : Nat) (ns : List ContractType) :
    renderLevelsAll excluded k ns =
      (ns.filter (fun n => !excluded n.name)).flatMap (renderLevels excluded k) := by
  induction ns with
  | nil => rfl
  | cons t rest ih =>
    rw [renderLevelsAll]
    cases hname : excluded t.name <;> simp [hname, ih]

/-- With their levels, the types that are rendered come in render order. -/
lemma map_snd_renderLevels (k : Nat) (t : ContractType) :
    (renderLevels excluded k t).map Prod.snd = renderOrder excluded t := by
  induction t using ContractType.nestedInduction generalizing k with
  | mk d ns ih =>
    have hall : ∀ ns' : List ContractType, (∀ n ∈ ns', n ∈ ns) →
        (renderLevelsAll excluded (k + 1) ns').map Prod.snd = renderOrderAll excluded ns' := by
      intro ns' hns'
      induction ns' with
      | nil => rfl
      | cons n rest ihrest =>
        rw [List.forall_mem_cons] at hns'
        rw [renderLevelsAll, renderOrderAll]
        cases excluded n.name with
        | true => simpa using ihrest hns'.2
        | false =>
          rw [if_neg Bool.false_ne_true, if_neg Bool.false_ne_true, List.map_append,
            ih n hns'.1 (k + 1), ihrest hns'.2]
    rw [renderLevels, renderOrder, List.map_cons]
    cases d.isEnum with
    | true => rfl
    | false => simpa using hall ns (fun _ hn => hn)

/-- What opens a type in Java. -/
def headOf (isNested : Bool) (d : Declaration) : TypeHead :=
  if d.isEnum then ⟨d.documentation, "public enum", d.name, none⟩ else Dialect.classHead isNested d

/-- Nothing of a type is rendered between its braces. -/
def Bare (excluded : String → Bool) (u : ContractType) : Prop :=
  (u.decl.isEnum = true ∧ u.decl.enumValues = []) ∨
    (u.decl.isEnum = false ∧ (∀ c ∈ u.decl.constructors, c.parameters = []) ∧
      u.decl.properties = [] ∧ u.decl.constants = [] ∧
      (∀ m ∈ u.decl.methods, ¬ IsPublicStatic m) ∧ ∀ n ∈ u.nested, excluded n.name = true)

instance (u : ContractType) : Decidable (Bare excluded u) :=
  inferInstanceAs (Decidable ((_ ∧ _) ∨ (_ ∧ _)))

namespace Dialect

variable {x : Dialect} {d : Declaration} {ns : List ContractType} {isNested : Bool}

lemma type_of_enum (hd : d.isEnum = true) {t : TypeDeclaration}
    (h : (x.type excluded isNested (.mk d ns)).outcome = .ok t) :
    t = .enumeration (headOf isNested d)
      (d.enumValues.map (fun v => ⟨v.documentation, v.name, identifier v.name⟩)) := by
  rw [type, if_pos hd] at h
  cases h
  rw [headOf, if_pos hd]

lemma type_of_class (hd : d.isEnum = false) {t : TypeDeclaration}
    (h : (x.type excluded isNested (.mk d ns)).outcome = .ok t) :
    ∃ members types, (x.members d).outcome = .ok members ∧
      (x.types excluded ns).outcome = .ok types ∧
      t = .classType (headOf isNested d) members types := by
  rw [type, if_neg (by simp [hd])] at h
  obtain ⟨-, -, h⟩ := Draft.bind_eq_ok h
  obtain ⟨members, hmembers, h⟩ := Draft.bind_eq_ok h
  obtain ⟨types, htypes, h⟩ := Draft.bind_eq_ok h
  cases h
  exact ⟨members, types, hmembers, htypes, by rw [headOf, if_neg (by simp [hd])]⟩

/-- The types of a list are drafted one after another, except the excluded ones. -/
lemma types_eq_ok {ts : List TypeDeclaration} (h : (x.types excluded ns).outcome = .ok ts) :
    List.Forall₂ (fun n t => (x.type excluded true n).outcome = .ok t)
      (ns.filter (fun n => !excluded n.name)) ts := by
  induction ns generalizing ts with
  | nil =>
    cases h
    exact .nil
  | cons n rest ih =>
    rw [types] at h
    cases hname : excluded n.name with
    | true =>
      rw [hname, if_pos rfl] at h
      simpa [hname] using ih h
    | false =>
      rw [hname, if_neg Bool.false_ne_true] at h
      obtain ⟨first, hfirst, h⟩ := Draft.bind_eq_ok h
      obtain ⟨others, hothers, h⟩ := Draft.bind_eq_ok h
      cases h
      simpa [hname] using ⟨hfirst, ih hothers⟩

lemma head_of_type {t : TypeDeclaration}
    (h : (x.type excluded isNested (.mk d ns)).outcome = .ok t) : t.head = headOf isNested d := by
  cases hd : d.isEnum with
  | true =>
    rw [type_of_enum hd h]
    rfl
  | false =>
    obtain ⟨members, types, -, -, rfl⟩ := type_of_class hd h
    rfl

/-- A declaration is bare exactly if nothing of its type is rendered. -/
lemma isBare_iff {t : TypeDeclaration}
    (h : (x.type excluded isNested (.mk d ns)).outcome = .ok t) :
    t.isBare = true ↔ Bare excluded (.mk d ns) := by
  rw [Bare, ContractType.decl, ContractType.nested]
  cases hd : d.isEnum with
  | true =>
    rw [type_of_enum hd h]
    simp [TypeDeclaration.isBare]
  | false =>
    obtain ⟨members, types, hmembers, htypes, rfl⟩ := type_of_class hd h
    have hnested : types = [] ↔ ∀ n ∈ ns, excluded n.name = true := by
      rw [← List.length_eq_zero_iff, ← (types_eq_ok htypes).length_eq, List.length_eq_zero_iff]
      simp
    simp [TypeDeclaration.isBare, members_eq_nil_iff hmembers, hnested, and_assoc]

/-! ### Balance -/

variable {docs : Javadoc}

lemma balanced_classKeywords (isStatic : Bool) : Balanced (classKeywords isStatic) := by
  cases isStatic <;> exact .plain rfl

/-- The head of a type is balanced if what is copied for the type is. -/
lemma balanced_headOf (isNested : Bool) {indent : String} (hindent : Balanced indent)
    (h : ∀ s ∈ x.declarationFragments docs indent d, Balanced s) :
    Balanced (docs.block indent (headOf isNested d).documentation) ∧
      Balanced ((headOf isNested d).opening indent) := by
  simp only [declarationFragments, List.cons_append, List.forall_mem_cons,
    List.forall_mem_append] at h
  obtain ⟨hname, hdoc, hbase, -⟩ := h
  rw [headOf]
  cases hd : d.isEnum with
  | true =>
    have hkeywords : Balanced "public enum" := .plain rfl
    exact ⟨hdoc, TypeHead.balanced_opening hindent hkeywords hname (by simp)⟩
  | false =>
    rw [hd, if_neg Bool.false_ne_true] at hbase
    rw [if_neg Bool.false_ne_true]
    refine ⟨hdoc, TypeHead.balanced_opening hindent (balanced_classKeywords _) hname ?_⟩
    exact fun b hb => hbase b (Option.mem_toList.mpr hb)

lemma balanced_enumConstants {indent : String} (hindent : Balanced indent)
    {vs : List EnumValue} (h : ∀ s ∈ vs.flatMap (enumValueFragments docs indent), Balanced s) :
    Balanced (String.join ((vs.map (fun v =>
      (⟨v.documentation, v.name, identifier v.name⟩ : EnumConstant))).map
        (EnumConstant.text docs indent))) := by
  refine .join (fun s hs => ?_)
  obtain ⟨c, hc, rfl⟩ := List.mem_map.mp hs
  obtain ⟨v, hv, rfl⟩ := List.mem_map.mp hc
  have hfragments := List.forall_mem_flatMap.mp h v hv
  simp only [enumValueFragments, List.forall_mem_cons] at hfragments
  obtain ⟨hdoc, hname, hident, -⟩ := hfragments
  exact (((Balanced.append (.plain rfl) hdoc).append (balanced_line hindent
    ((Balanced.append (.plain rfl) hname).append (.plain rfl))))).append
      (balanced_line hindent (hident.append (.plain rfl)))

/-- What is copied for the types of some levels is balanced. -/
def CopiesBalanced (x : Dialect) (docs : Javadoc) (levels : List (Nat × ContractType)) : Prop :=
  ∀ p ∈ levels, ∀ s ∈ x.declarationFragments docs (indentAt p.1) p.2.decl, Balanced s

lemma CopiesBalanced.of_mk {k : Nat}
    (h : x.CopiesBalanced docs (renderLevels excluded k (.mk d ns))) :
    ∀ s ∈ x.declarationFragments docs (indentAt k) d, Balanced s := by
  refine h (k, .mk d ns) ?_
  rw [renderLevels]
  exact List.mem_cons_self

lemma CopiesBalanced.of_nested (hd : d.isEnum = false) {k : Nat}
    (h : x.CopiesBalanced docs (renderLevels excluded k (.mk d ns))) :
    ∀ n ∈ ns.filter (fun n => !excluded n.name),
      x.CopiesBalanced docs (renderLevels excluded (k + 1) n) := by
  intro n hn p hp
  refine h p ?_
  rw [renderLevels, hd, if_neg Bool.false_ne_true, renderLevelsAll_eq]
  exact List.mem_cons_of_mem _ (List.mem_flatMap.mpr ⟨n, hn, hp⟩)

/-- The text of the members of a class is balanced if what is copied for the class is. -/
lemma CopiesBalanced.membersText (hd : d.isEnum = false) {k : Nat} {members : List ClassMember}
    (hm : (x.members d).outcome = .ok members)
    (h : x.CopiesBalanced docs (renderLevels excluded k (.mk d ns))) :
    Balanced (String.join (members.map (ClassMember.text docs (indentAt (k + 1))))) := by
  have hname : Balanced d.name := h.of_mk _ List.mem_cons_self
  refine .join (fun s hs => ?_)
  obtain ⟨m, hmem, rfl⟩ := List.mem_map.mp hs
  refine members_balanced hd (balanced_indentAt (k + 1)) hname hm (fun s hs => ?_) m hmem
  exact h.of_mk s (List.mem_append_right _ hs)

/-- The text of a type, and what lies between its braces, are balanced if what is copied is. -/
lemma type_balanced {k : Nat} {u : ContractType} {t : TypeDeclaration}
    (h : (x.type excluded isNested u).outcome = .ok t)
    (hu : x.CopiesBalanced docs (renderLevels excluded k u)) :
    Balanced (t.inner docs (indentAt k)) ∧ Balanced (t.text docs (indentAt k)) := by
  induction u using ContractType.nestedInduction generalizing isNested k t with
  | mk d ns ih =>
    have hindent := balanced_indentAt k
    obtain ⟨hdoc, hopening⟩ := balanced_headOf isNested hindent hu.of_mk
    have hinner : Balanced (t.inner docs (indentAt k)) := by
      cases hd : d.isEnum with
      | true =>
        rw [type_of_enum hd h]
        refine balanced_enumConstants (balanced_indentAt (k + 1)) (fun s hs => ?_)
        refine hu.of_mk s (List.mem_append_right _ ?_)
        rw [memberFragments, if_pos hd]
        exact hs
      | false =>
        obtain ⟨members, types, hm, ht, rfl⟩ := type_of_class hd h
        refine (hu.membersText hd hm).append (TypeDeclaration.balanced_nestedText ?_)
        intro t htmem
        obtain ⟨n, hn, hdraft⟩ := exists_left_of_forall₂ (types_eq_ok ht) t htmem
        exact (ih n (List.mem_of_mem_filter hn) hdraft (hu.of_nested hd n hn)).2
    rw [← head_of_type h] at hdoc hopening
    exact ⟨hinner, TypeDeclaration.balanced_text hindent hdoc hopening hinner⟩

end Dialect

end DataContract.Java
