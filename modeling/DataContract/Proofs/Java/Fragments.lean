/-
What is copied into a file.

Apart from a few words and marks, the text of a file is made of fragments that
come from its type and from the configuration: names, Java types, blocks of
documentation, values.  Here it is said which ones these are.  A member that is
not written copies nothing, and of two parameters with one name in Java only the
type of the later one is copied.
-/
import DataContract.Java.Writer
import DataContract.Proofs.Java.Rendering
import DataContract.Proofs.Text.Braces

namespace DataContract.Java

open DataContract.Text (Balanced)

/-! ### The fragments of a type -/

namespace Dialect

variable (x : Dialect)

/-- The Java type of a reference, if it has one. -/
def mappedNames (r : TypeRef) : List String :=
  match x.table.mapRef r "" with
  | .ok mapped => [mapped.name]
  | .error _ => []

/-- The names of parameters, and the types of those that no later one takes the place of. -/
def parameterFragments : List Parameter → List String
  | [] => []
  | p :: rest =>
    identifier p.name ::
      (if rest.any (fun q => identifier q.name == identifier p.name) then []
        else x.mappedNames p.type)
      ++ parameterFragments rest

/-- The fragments of a constructor. -/
def constructorFragments (docs : Javadoc) (indent : String) (c : Constructor) : List String :=
  if c.parameters.isEmpty then []
  else docs.block indent c.documentation :: x.parameterFragments c.parameters

/-- The fragments of the initial value of a property. -/
def valueFragments (d : Declaration) (p : Property) : List String :=
  if p.isStatic && !d.isStaticClass then [x.companion.suffix]
  else
    match p.initializer.mapM extract with
    | .ok initializer => (initialValue initializer.join).toList
    | .error _ => []

/-- The fragments of a property. -/
def propertyFragments (docs : Javadoc) (indent : String) (d : Declaration) (p : Property) :
    List String :=
  docs.block indent p.documentation :: identifier p.name :: x.mappedNames p.type
    ++ x.valueFragments d p

/-- The fragments of a constant. -/
def constantFragments (docs : Javadoc) (indent : String) (c : Constant) : List String :=
  docs.block indent c.documentation :: identifier c.name :: stringLiteral c.literal
    :: x.mappedNames c.type

/-- The fragments of a method that is forwarded. -/
def methodFragments (docs : Javadoc) (indent : String) (m : Method) : List String :=
  docs.block indent m.documentation :: identifier m.name :: x.companion.suffix
    :: x.mappedNames m.returnType ++ x.parameterFragments m.parameters

/-- The fragments of a value of an enumeration. -/
def enumValueFragments (docs : Javadoc) (indent : String) (v : EnumValue) : List String :=
  [docs.block indent v.documentation, v.name, identifier v.name]

/-- The fragments of the members of a type. -/
def memberFragments (docs : Javadoc) (indent : String) (d : Declaration) : List String :=
  if d.isEnum then d.enumValues.flatMap (enumValueFragments docs indent)
  else
    d.constructors.flatMap (x.constructorFragments docs indent)
      ++ d.properties.flatMap (x.propertyFragments docs indent d)
      ++ d.constants.flatMap (x.constantFragments docs indent)
      ++ (d.methods.filter (fun m => decide (IsPublicStatic m))).flatMap
        (x.methodFragments docs indent)

/-- The fragments of a type without the types nested in it. -/
def declarationFragments (docs : Javadoc) (indent : String) (d : Declaration) : List String :=
  d.name :: docs.block indent d.documentation :: (if d.isEnum then [] else d.properBase?.toList)
    ++ x.memberFragments docs (indent ++ indentUnit) d

end Dialect

/-! ### The fragments of a declaration in Java -/

/-- The fragments of the parameters of a declaration. -/
def FormalParameter.fragments (p : FormalParameter) : List String :=
  [p.type, p.name]

/-- The fragments of a member without its documentation. -/
def ClassMember.fragments : ClassMember → List String
  | .constructor c => c.className :: c.parameters.flatMap FormalParameter.fragments
  | .field f => f.type :: f.name :: f.value.toList
  | .constant c => [c.type, c.name, stringLiteral c.literal]
  | .method m => m.returnType :: m.name :: m.call :: m.parameters.flatMap FormalParameter.fragments

lemma balanced_line {indent s : String} (hindent : Balanced indent) (hs : Balanced s) :
    Balanced (line indent s) :=
  (hindent.append hs).append (.plain rfl)

/-- Lines between one that opens a brace and one that closes it. -/
lemma balanced_block {indent s body : String} (hindent : Balanced indent) (hs : Balanced s)
    (hbody : Balanced body) :
    Balanced (line indent (s ++ openBrace) ++ body ++ line indent closeBrace) := by
  have htext : line indent (s ++ openBrace) ++ body ++ line indent closeBrace =
      indent ++ s ++ ("\x7b" ++ ("\n" ++ body ++ indent) ++ "\x7d") ++ "\n" := by
    simp only [line, openBrace, closeBrace, String.append_assoc]
  have hinner : Balanced ("\n" ++ body ++ indent) :=
    (Balanced.append (.plain rfl) hbody).append hindent
  rw [htext]
  exact ((hindent.append hs).append hinner.braced).append (.plain rfl)

lemma FormalParameter.balanced_of_mem {ps : List FormalParameter}
    (h : ∀ s ∈ ps.flatMap fragments, Balanced s) {p : FormalParameter} (hp : p ∈ ps) :
    Balanced p.type ∧ Balanced p.name := by
  simp only [List.forall_mem_flatMap, fragments, List.forall_mem_cons] at h
  exact ⟨(h p hp).1, (h p hp).2.1⟩

lemma balanced_signature {ps : List FormalParameter}
    (h : ∀ s ∈ ps.flatMap FormalParameter.fragments, Balanced s) : Balanced (signature ps) := by
  refine Balanced.intercalate (.plain rfl) (fun s hs => ?_)
  obtain ⟨p, hp, rfl⟩ := List.mem_map.mp hs
  obtain ⟨htype, hname⟩ := FormalParameter.balanced_of_mem h hp
  exact (htype.append (.plain rfl)).append hname

lemma balanced_access (isPublic : Bool) : Balanced (access isPublic) := by
  cases isPublic <;> exact .plain rfl

/-- The lines of a member are balanced if its fragments are. -/
lemma ClassMember.balanced_body {indent : String} (hindent : Balanced indent) {m : ClassMember}
    (h : ∀ s ∈ m.fragments, Balanced s) : Balanced (m.body indent) := by
  have hinner : Balanced (indent ++ indentUnit) := hindent.append (.plain rfl)
  cases m with
  | constructor c =>
    obtain ⟨hname, hps⟩ := List.forall_mem_cons.mp h
    have hassign : Balanced (String.join (c.parameters.map (fun p =>
        line (indent ++ indentUnit) ("this." ++ p.name ++ " = " ++ p.name ++ ";")))) := by
      refine .join (fun s hs => ?_)
      obtain ⟨p, hp, rfl⟩ := List.mem_map.mp hs
      obtain ⟨-, hp⟩ := FormalParameter.balanced_of_mem hps hp
      exact balanced_line hinner
        ((((Balanced.append (.plain rfl) hp).append (.plain rfl)).append hp).append (.plain rfl))
    exact balanced_block hindent
      (((hname.append (.plain rfl)).append (balanced_signature hps)).append (.plain rfl)) hassign
  | field f =>
    simp only [fragments, List.forall_mem_cons] at h
    obtain ⟨htype, hname, hvalue⟩ := h
    have hstart : Balanced (access f.isPublic ++ (if f.isStatic then "static " else "")
        ++ f.type ++ " " ++ f.name) := by
      have hstatic : Balanced (if f.isStatic then "static " else "") := by
        split <;> exact .plain rfl
      exact ((((balanced_access _).append hstatic).append htype).append (.plain rfl)).append hname
    have hexpose : Balanced (if f.isStatic then "" else line indent "@Expose") := by
      split
      · exact .plain rfl
      · exact balanced_line hindent (.plain rfl)
    rw [body]
    refine hexpose.append (balanced_line hindent (hstart.append ?_))
    cases hv : f.value with
    | none => exact .plain rfl
    | some value =>
      have hvalue : Balanced value := hvalue value (by simp [hv])
      exact (Balanced.append (.plain rfl) hvalue).append (.plain rfl)
  | constant c =>
    simp only [fragments, List.forall_mem_cons] at h
    obtain ⟨htype, hname, hliteral, -⟩ := h
    have hstart : Balanced (access c.isPublic ++ "static final " ++ c.type ++ " " ++ c.name) :=
      ((((balanced_access _).append (.plain rfl)).append htype).append (.plain rfl)).append hname
    exact balanced_line hindent (((hstart.append (.plain rfl)).append hliteral).append (.plain rfl))
  | method m =>
    simp only [fragments, List.forall_mem_cons] at h
    obtain ⟨htype, hname, hcall, hps⟩ := h
    have hreturn : Balanced (if m.returnType == "void" then "" else "return ") := by
      split <;> exact .plain rfl
    have hstart : Balanced ("public static " ++ m.returnType ++ " " ++ m.name) :=
      ((Balanced.append (.plain rfl) htype).append (.plain rfl)).append hname
    exact balanced_block hindent
      (((hstart.append (.plain rfl)).append (balanced_signature hps)).append (.plain rfl))
      (balanced_line hinner ((hreturn.append hcall).append (.plain rfl)))

lemma ClassMember.balanced_text {docs : Javadoc} {indent : String} (hindent : Balanced indent)
    {m : ClassMember} (hdoc : Balanced (docs.block indent m.documentation))
    (h : ∀ s ∈ m.fragments, Balanced s) : Balanced (m.text docs indent) :=
  (Balanced.append (.plain rfl) hdoc).append (m.balanced_body hindent h)

/-! ### From a type to its declaration -/

namespace Dialect

variable {x : Dialect} {docs : Javadoc} {indent : String} {d : Declaration}

lemma mem_mappedNames {r : TypeRef} {member name : String}
    (h : (Draft.typeOf x.table r member).outcome = .ok name) : name ∈ x.mappedNames r := by
  rw [Draft.typeOf, TypeTable.mapRef, TypeTable.map] at h
  rw [mappedNames, TypeTable.mapRef, TypeTable.map]
  cases helement : x.table.element? (TypeTable.unmark r.base.toList r.isArray).1 with
  | none => simp [helement] at h
  | some element =>
    simp only [helement] at h ⊢
    cases h
    simp

/-- A parameter keeps its type if none of the same name is set. -/
lemma mem_setParameter {p q : FormalParameter} {acc : List FormalParameter}
    (hnames : (acc.map (·.name)).Nodup) (h : q ∈ setParameter p acc) :
    q = p ∨ q ∈ acc ∧ q.name ≠ p.name := by
  induction acc with
  | nil => exact .inl (by simpa [setParameter] using h)
  | cons a rest ih =>
    rw [List.map_cons, List.nodup_cons] at hnames
    rw [setParameter] at h
    split at h
    case isTrue hname =>
      obtain rfl | hq := List.mem_cons.mp h
      · exact .inl rfl
      · refine .inr ⟨List.mem_cons_of_mem a hq, fun heq => hnames.1 ?_⟩
        rw [beq_iff_eq.mp hname, ← heq]
        exact List.mem_map_of_mem hq
    case isFalse hname =>
      obtain rfl | hq := List.mem_cons.mp h
      · exact .inr ⟨List.mem_cons_self, by simpa using hname⟩
      · obtain rfl | ⟨hq, hne⟩ := ih hnames.2 hq
        · exact .inl rfl
        · exact .inr ⟨List.mem_cons_of_mem a hq, hne⟩

lemma setParameter_nodup {p : FormalParameter} {acc : List FormalParameter}
    (h : (acc.map (·.name)).Nodup) : ((setParameter p acc).map (·.name)).Nodup := by
  induction acc with
  | nil => exact List.nodup_singleton _
  | cons a rest ih =>
    obtain ⟨hfirst, hrest⟩ := List.nodup_cons.mp h
    rw [setParameter]
    split
    case isTrue hname =>
      rw [List.map_cons, ← beq_iff_eq.mp hname]
      exact h
    case isFalse hname =>
      refine List.nodup_cons.mpr ⟨fun hmem => ?_, ih hrest⟩
      obtain ⟨q, hq, heq⟩ := List.mem_map.mp hmem
      obtain rfl | ⟨hq, -⟩ := mem_setParameter hrest hq
      · exact hname (beq_iff_eq.mpr heq.symm)
      · exact hfirst (List.mem_map.mpr ⟨q, hq, heq⟩)

/-- The fragments of the parameters that come of a list, if a type that is not balanced is replaced
by that of a later parameter. -/
lemma parametersAfter_balanced {owner : String} {acc : List FormalParameter} {ps : List Parameter}
    {qs : List FormalParameter} (h : (x.parametersAfter owner acc ps).outcome = .ok qs)
    (hnames : (acc.map (·.name)).Nodup)
    (hacc : ∀ q ∈ acc, Balanced q.name ∧
      (Balanced q.type ∨ ∃ p ∈ ps, identifier p.name = q.name))
    (hps : ∀ s ∈ x.parameterFragments ps, Balanced s) :
    ∀ s ∈ qs.flatMap FormalParameter.fragments, Balanced s := by
  induction ps generalizing acc with
  | nil =>
    cases h
    intro s hs
    obtain ⟨q, hq, hs⟩ := List.mem_flatMap.mp hs
    obtain ⟨hname, htype⟩ := hacc q hq
    have htype : Balanced q.type := by simpa using htype
    obtain rfl | rfl : s = q.type ∨ s = q.name := by simpa [FormalParameter.fragments] using hs
    · exact htype
    · exact hname
  | cons p rest ih =>
    rw [parametersAfter] at h
    obtain ⟨type, htype, h⟩ := Draft.bind_eq_ok h
    simp only [parameterFragments, List.cons_append, List.forall_mem_cons,
      List.forall_mem_append] at hps
    obtain ⟨hname, hown, hrest⟩ := hps
    refine ih h (setParameter_nodup hnames) (fun q hq => ?_) hrest
    obtain rfl | ⟨hq, hne⟩ := mem_setParameter hnames hq
    · refine ⟨hname, ?_⟩
      by_cases hlater : rest.any (fun q => identifier q.name == identifier p.name) = true
      · obtain ⟨r, hr, heq⟩ := List.any_eq_true.mp hlater
        exact .inr ⟨r, hr, beq_iff_eq.mp heq⟩
      · rw [if_neg hlater] at hown
        exact .inl (hown type (mem_mappedNames htype))
    · obtain ⟨hqname, hqtype⟩ := hacc q hq
      refine ⟨hqname, hqtype.imp_right ?_⟩
      rintro ⟨r, hr, heq⟩
      obtain rfl | hr := List.mem_cons.mp hr
      · exact absurd heq.symm hne
      · exact ⟨r, hr, heq⟩

lemma parameters_balanced {owner : String} {ps : List Parameter} {qs : List FormalParameter}
    (h : (x.parameters owner ps).outcome = .ok qs)
    (hps : ∀ s ∈ x.parameterFragments ps, Balanced s) :
    ∀ s ∈ qs.flatMap FormalParameter.fragments, Balanced s :=
  parametersAfter_balanced h .nil (by simp) hps

/-- There is a parameter in Java exactly if there is one in the contract. -/
lemma parametersAfter_eq_nil_iff {owner : String} {acc : List FormalParameter}
    {ps : List Parameter} {qs : List FormalParameter}
    (h : (x.parametersAfter owner acc ps).outcome = .ok qs) : qs = [] ↔ acc = [] ∧ ps = [] := by
  induction ps generalizing acc with
  | nil =>
    cases h
    simp
  | cons p rest ih =>
    rw [parametersAfter] at h
    obtain ⟨type, -, h⟩ := Draft.bind_eq_ok h
    have hset : setParameter ⟨identifier p.name, type⟩ acc ≠ [] := by
      cases acc with
      | nil => simp [setParameter]
      | cons q acc =>
        rw [setParameter]
        split <;> simp
    rw [ih h]
    simp [hset]

/-- A constructor in Java has the parameters of the one in the contract, if there are any. -/
lemma constructor_eq_ok {c : Constructor} {ms : List ClassMember}
    (h : (x.constructor d c).outcome = .ok ms) :
    ∃ ps, (x.parameters d.name c.parameters).outcome = .ok ps ∧
      ms = if ps.isEmpty then [] else [.constructor ⟨c.documentation, d.name, ps⟩] := by
  rw [constructor] at h
  obtain ⟨ps, hps, h⟩ := Draft.bind_eq_ok h
  refine ⟨ps, hps, ?_⟩
  split at h
  case isTrue hempty =>
    cases h
    rw [if_pos hempty]
  case isFalse hempty =>
    rw [if_neg hempty]
    split at h
    · obtain ⟨-, -, h⟩ := Draft.bind_eq_ok h
      cases h
      rfl
    · cases h
      rfl

lemma constructor_eq_nil_iff {c : Constructor} {ms : List ClassMember}
    (h : (x.constructor d c).outcome = .ok ms) : ms = [] ↔ c.parameters = [] := by
  obtain ⟨ps, hps, rfl⟩ := constructor_eq_ok h
  rw [parameters] at hps
  have hnil := parametersAfter_eq_nil_iff hps
  cases ps with
  | nil => simpa using hnil
  | cons p rest => simpa using hnil

lemma constructor_balanced (hindent : Balanced indent) (hname : Balanced d.name) {c : Constructor}
    {ms : List ClassMember} (h : (x.constructor d c).outcome = .ok ms)
    (hc : ∀ s ∈ x.constructorFragments docs indent c, Balanced s) :
    ∀ m ∈ ms, Balanced (m.text docs indent) := by
  have hnil := constructor_eq_nil_iff h
  obtain ⟨ps, hps, rfl⟩ := constructor_eq_ok h
  intro m hm
  have hwritten : ¬ c.parameters.isEmpty = true := by
    intro hempty
    rw [hnil.mpr (List.isEmpty_iff.mp hempty)] at hm
    cases hm
  rw [constructorFragments, if_neg hwritten, List.forall_mem_cons] at hc
  obtain ⟨hdoc, hparameters⟩ := hc
  split at hm
  · cases hm
  · rw [List.mem_singleton.mp hm]
    exact ClassMember.balanced_text hindent hdoc
      (List.forall_mem_cons.mpr ⟨hname, parameters_balanced hps hparameters⟩)

/-- The initial value of a property is that of its initializer, or a member of the companion. -/
lemma propertyValue_balanced (hname : Balanced d.name) {p : Property}
    (hp : Balanced (identifier p.name)) {value : Option String}
    (h : (x.propertyValue d p).outcome = .ok value)
    (hvalue : ∀ s ∈ x.valueFragments d p, Balanced s) : ∀ v ∈ value.toList, Balanced v := by
  rw [propertyValue] at h
  rw [valueFragments] at hvalue
  split at h
  case isTrue hstatic =>
    rw [if_pos hstatic, List.forall_mem_singleton] at hvalue
    cases h
    rw [Option.toList_some, List.forall_mem_singleton]
    exact ((hname.append hvalue).append (.plain rfl)).append hp
  case isFalse hstatic =>
    rw [if_neg hstatic] at hvalue
    split at h
    case h_1 initializer hextract =>
      rw [hextract] at hvalue
      cases h
      exact hvalue
    case h_2 e hextract =>
      obtain ⟨-, -, h⟩ := Draft.bind_eq_ok h
      cases h
      simp

lemma property_balanced (hindent : Balanced indent) (hname : Balanced d.name) {p : Property}
    {m : ClassMember} (h : (x.property d p).outcome = .ok m)
    (hp : ∀ s ∈ x.propertyFragments docs indent d p, Balanced s) :
    Balanced (m.text docs indent) := by
  rw [property] at h
  obtain ⟨type, htype, h⟩ := Draft.bind_eq_ok h
  obtain ⟨value, hvalue, h⟩ := Draft.bind_eq_ok h
  cases h
  simp only [propertyFragments, List.cons_append, List.forall_mem_cons,
    List.forall_mem_append] at hp
  obtain ⟨hdoc, hident, hmapped, hvalues⟩ := hp
  refine ClassMember.balanced_text hindent hdoc ?_
  simp only [ClassMember.fragments, List.forall_mem_cons]
  exact ⟨hmapped type (mem_mappedNames htype), hident,
    propertyValue_balanced hname hident hvalue hvalues⟩

lemma constant_balanced (hindent : Balanced indent) {c : Constant} {m : ClassMember}
    (h : (x.constant d c).outcome = .ok m)
    (hc : ∀ s ∈ x.constantFragments docs indent c, Balanced s) : Balanced (m.text docs indent) := by
  rw [constant] at h
  obtain ⟨type, htype, h⟩ := Draft.bind_eq_ok h
  cases h
  simp only [constantFragments, List.forall_mem_cons] at hc
  obtain ⟨hdoc, hident, hliteral, hmapped⟩ := hc
  refine ClassMember.balanced_text hindent hdoc ?_
  simp only [ClassMember.fragments, List.forall_mem_cons]
  exact ⟨hmapped type (mem_mappedNames htype), hident, hliteral, by simp⟩

lemma method_balanced (hindent : Balanced indent) (hname : Balanced d.name) {m : Method}
    {member : ClassMember} (h : (x.method d m).outcome = .ok member)
    (hm : ∀ s ∈ x.methodFragments docs indent m, Balanced s) :
    Balanced (member.text docs indent) := by
  rw [method] at h
  obtain ⟨type, htype, h⟩ := Draft.bind_eq_ok h
  obtain ⟨ps, hps, h⟩ := Draft.bind_eq_ok h
  cases h
  simp only [methodFragments, List.cons_append, List.forall_mem_cons,
    List.forall_mem_append] at hm
  obtain ⟨hdoc, hident, hsuffix, hmapped, hparameters⟩ := hm
  have hformal := parameters_balanced hps hparameters
  have hcall : Balanced (x.companion.call d.name (identifier m.name) (ps.map (·.name))) := by
    have harguments : Balanced (commaSeparated (ps.map (·.name))) := by
      refine Balanced.intercalate (.plain rfl) (fun s hs => ?_)
      obtain ⟨p, hp, rfl⟩ := List.mem_map.mp hs
      exact (FormalParameter.balanced_of_mem hformal hp).2
    have hcallee : Balanced (d.name ++ x.companion.suffix ++ "." ++ identifier m.name) :=
      ((hname.append hsuffix).append (.plain rfl)).append hident
    exact ((hcallee.append (.plain rfl)).append harguments).append (.plain rfl)
  refine ClassMember.balanced_text hindent hdoc ?_
  simp only [ClassMember.fragments, List.forall_mem_cons]
  exact ⟨hmapped type (mem_mappedNames htype), hident, hcall, hformal⟩

/-- The members of a class are those of its constructors, properties, constants and methods. -/
lemma members_eq_ok {ms : List ClassMember} (h : (x.members d).outcome = .ok ms) :
    ∃ constructors properties constants methods,
      List.Forall₂ (fun c ms => (x.constructor d c).outcome = .ok ms) d.constructors constructors ∧
      List.Forall₂ (fun p m => (x.property d p).outcome = .ok m) d.properties properties ∧
      List.Forall₂ (fun c m => (x.constant d c).outcome = .ok m) d.constants constants ∧
      List.Forall₂ (fun f m => (x.method d f).outcome = .ok m)
        (d.methods.filter (fun m => decide (IsPublicStatic m))) methods ∧
      ms = constructors.flatten ++ properties ++ constants ++ methods := by
  rw [members] at h
  obtain ⟨constructors, hconstructors, h⟩ := Draft.bind_eq_ok h
  obtain ⟨properties, hproperties, h⟩ := Draft.bind_eq_ok h
  obtain ⟨constants, hconstants, h⟩ := Draft.bind_eq_ok h
  obtain ⟨methods, hmethods, h⟩ := Draft.bind_eq_ok h
  cases h
  rw [funext isForwarded_eq] at hmethods
  exact ⟨constructors, properties, constants, methods, Draft.mapM_eq_ok hconstructors,
    Draft.mapM_eq_ok hproperties, Draft.mapM_eq_ok hconstants, Draft.mapM_eq_ok hmethods, rfl⟩

/-- The members of a class are balanced if what is copied for them is. -/
lemma members_balanced (hclass : d.isEnum = false) (hindent : Balanced indent)
    (hname : Balanced d.name) {ms : List ClassMember} (h : (x.members d).outcome = .ok ms)
    (hf : ∀ s ∈ x.memberFragments docs indent d, Balanced s) :
    ∀ m ∈ ms, Balanced (m.text docs indent) := by
  simp only [memberFragments, hclass, Bool.false_eq_true, if_false, List.forall_mem_append,
    List.forall_mem_flatMap] at hf
  obtain ⟨⟨⟨hfc, hfp⟩, hfk⟩, hfm⟩ := hf
  obtain ⟨constructors, properties, constants, methods, hcs, hps, hks, hms, rfl⟩ := members_eq_ok h
  simp only [List.forall_mem_append]
  refine ⟨⟨⟨fun m hm => ?_, fun m hm => ?_⟩, fun m hm => ?_⟩, fun m hm => ?_⟩
  · obtain ⟨ms, hms, hm⟩ := List.mem_flatten.mp hm
    obtain ⟨c, hc, hdraft⟩ := exists_left_of_forall₂ hcs ms hms
    exact constructor_balanced hindent hname hdraft (hfc c hc) m hm
  · obtain ⟨p, hp, hdraft⟩ := exists_left_of_forall₂ hps m hm
    exact property_balanced hindent hname hdraft (hfp p hp)
  · obtain ⟨c, hc, hdraft⟩ := exists_left_of_forall₂ hks m hm
    exact constant_balanced hindent hdraft (hfk c hc)
  · obtain ⟨f, hf, hdraft⟩ := exists_left_of_forall₂ hms m hm
    exact method_balanced hindent hname hdraft (hfm f hf)

/-- No constructor is written exactly if all of them are without parameters. -/
lemma flatten_eq_nil_iff {cs : List Constructor} {constructors : List (List ClassMember)}
    (h : List.Forall₂ (fun c ms => (x.constructor d c).outcome = .ok ms) cs constructors) :
    constructors.flatten = [] ↔ ∀ c ∈ cs, c.parameters = [] := by
  induction h with
  | nil => simp
  | cons hc _ ih =>
    rw [List.flatten_cons, List.append_eq_nil_iff, constructor_eq_nil_iff hc, ih,
      List.forall_mem_cons]

/-- A class without members has nothing that is written. -/
lemma members_eq_nil_iff {ms : List ClassMember} (h : (x.members d).outcome = .ok ms) :
    ms = [] ↔ (∀ c ∈ d.constructors, c.parameters = []) ∧ d.properties = [] ∧ d.constants = [] ∧
      ∀ m ∈ d.methods, ¬ IsPublicStatic m := by
  obtain ⟨constructors, properties, constants, methods, hcs, hps, hks, hms, rfl⟩ := members_eq_ok h
  have hnil : ∀ {α : Type} {R : α → ClassMember → Prop} {l : List α} {l' : List ClassMember},
      List.Forall₂ R l l' → (l' = [] ↔ l = []) := by
    intro α R l l' hl
    rw [← List.length_eq_zero_iff, ← hl.length_eq, List.length_eq_zero_iff]
  simp only [List.append_eq_nil_iff, flatten_eq_nil_iff hcs, hnil hps, hnil hks, hnil hms,
    List.filter_eq_nil_iff, decide_eq_true_eq, and_assoc]

end Dialect

end DataContract.Java
