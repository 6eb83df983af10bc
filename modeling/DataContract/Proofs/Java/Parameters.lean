/-
Parameters with the same name in Java.

The names of parameters are made into identifiers, and two of them can become one.
Then there is one parameter in Java: it stands where the first of them stood, with
the type of the last.  The types of all of them are looked up all the same, so each
of them can fail, and each of them is imported.  One parameter after another is set
in what the earlier ones gave, and what one step keeps is said once.
-/
import DataContract.Proofs.Java.ArrayRank
import DataContract.Proofs.Java.Placement
import DataContract.Proofs.Java.TypeNames
import DataContract.Proofs.Java.Unsupported

namespace DataContract.Java

/-! ### What comes of a list of parameters -/

/-- A name at the end of a list is the last of the distinct ones, unless it has occurred before. -/
lemma eraseDups_concat (names : List String) (name : String) :
    (names ++ [name]).eraseDups =
      if name ∈ names then names.eraseDups else names.eraseDups ++ [name] := by
  rw [List.eraseDups_append]
  split
  case isTrue h => simp [List.removeAll, h]
  case isFalse h => simp [List.removeAll, h, List.eraseDups_cons]

/-- A reference is written as a Java type, whichever member it is a part of. -/
def TypeTable.WritesAs (t : TypeTable) (r : TypeRef) (name : String) : Prop :=
  ∀ member, ∃ required, t.mapRef r member = .ok ⟨name, required⟩

/-- A parameter is the last one of a list that has its identifier. -/
def IsLastOfName (ps : List Parameter) (p : Parameter) : Prop :=
  ∃ before after, ps = before ++ p :: after ∧ ∀ q ∈ after, identifier q.name ≠ identifier p.name

/-- The parameters in Java that come of a list: one for each identifier, in the order in which these
occur first, and each with the Java type of the last parameter of its identifier. -/
structure Collapses (t : TypeTable) (ps : List Parameter) (qs : List FormalParameter) : Prop where
  names : qs.map (·.name) = (ps.map (fun p => identifier p.name)).eraseDups
  distinct : (qs.map (·.name)).Nodup
  types : ∀ q ∈ qs, ∃ p, IsLastOfName ps p ∧ identifier p.name = q.name ∧ t.WritesAs p.type q.type

lemma TypeTable.writesAs_of_typeOf {t : TypeTable} {r : TypeRef} {member name : String}
    (h : (Draft.typeOf t r member).outcome = .ok name) : t.WritesAs r name := by
  intro other
  rw [Draft.typeOf] at h
  cases hmap : t.mapRef r member with
  | error e => simp [hmap] at h
  | ok mapped =>
    -- the member only shows in a failure
    have hother : t.mapRef r other = .ok mapped := by
      rw [mapRef, map_eq_ok_iff] at hmap ⊢
      exact hmap
    simp only [hmap, Except.ok.injEq] at h
    exact ⟨mapped.requiredImport, by rw [hother, ← h]⟩

lemma IsLastOfName.concat {ps : List Parameter} {p q : Parameter} (h : IsLastOfName ps p)
    (hq : identifier q.name ≠ identifier p.name) : IsLastOfName (ps ++ [q]) p := by
  obtain ⟨before, after, rfl, hafter⟩ := h
  refine ⟨before, after ++ [q], by simp, fun r hr => ?_⟩
  obtain hr | hr := List.mem_append.mp hr
  · exact hafter r hr
  · rwa [List.mem_singleton.mp hr]

namespace Dialect

/-- A name keeps its place when it is set, and a new one comes last. -/
lemma map_name_setParameter (p : FormalParameter) (qs : List FormalParameter) :
    (setParameter p qs).map (·.name) =
      if p.name ∈ qs.map (·.name) then qs.map (·.name) else qs.map (·.name) ++ [p.name] := by
  induction qs with
  | nil => simp [setParameter]
  | cons q rest ih =>
    rw [setParameter]
    by_cases hname : q.name = p.name
    · simp [hname]
    · simp only [beq_iff_eq, hname, if_false, List.map_cons, ih, List.mem_cons, Ne.symm hname,
        false_or]
      split <;> rfl

/-- One more parameter is set. -/
lemma collapses_setParameter {t : TypeTable} {ps : List Parameter} {qs : List FormalParameter}
    (h : Collapses t ps qs) {p : Parameter} {type : String} (htype : t.WritesAs p.type type) :
    Collapses t (ps ++ [p]) (setParameter ⟨identifier p.name, type⟩ qs) where
  names := by
    rw [map_name_setParameter, h.names, List.map_append, List.map_singleton, eraseDups_concat]
    simp only [List.mem_eraseDups]
  distinct := setParameter_nodup h.distinct
  types := by
    intro q hq
    obtain rfl | ⟨hq, hne⟩ := mem_setParameter h.distinct hq
    · exact ⟨p, ⟨ps, [], rfl, by simp⟩, rfl, htype⟩
    · obtain ⟨r, hlast, hname, hwrites⟩ := h.types q hq
      refine ⟨r, hlast.concat ?_, hname, hwrites⟩
      rw [hname]
      exact Ne.symm hne

variable {x : Dialect} {owner : String}

/-- The parameters of a list are set one after another in what the earlier ones gave. -/
lemma parametersAfter_collapses {seen ps : List Parameter} {acc qs : List FormalParameter}
    (hacc : Collapses x.table seen acc) (h : (x.parametersAfter owner acc ps).outcome = .ok qs) :
    Collapses x.table (seen ++ ps) qs := by
  induction ps generalizing seen acc with
  | nil =>
    cases h
    rwa [List.append_nil]
  | cons p rest ih =>
    rw [parametersAfter] at h
    obtain ⟨type, htype, h⟩ := Draft.bind_eq_ok h
    have hstep := collapses_setParameter hacc (TypeTable.writesAs_of_typeOf htype)
    rw [List.append_cons]
    exact ih hstep h

lemma parameters_collapses {ps : List Parameter} {qs : List FormalParameter}
    (h : (x.parameters owner ps).outcome = .ok qs) : Collapses x.table ps qs := by
  have hnone : Collapses x.table [] [] := ⟨rfl, .nil, by simp⟩
  exact parametersAfter_collapses hnone h

/-- The parameters of a list in Java, when some names are imported already. -/
def parametersWith (x : Dialect) (imported : List String) (owner : String) (ps : List Parameter) :
    Draft UnsupportedType (List FormalParameter) := do
  Draft.require imported
  x.parameters owner ps

lemma parametersWith_collects (x : Dialect) (imported : List String) (owner : String)
    (ps : List Parameter) :
    Draft.Collects x.table (x.parametersWith imported owner ps) imported
      (parameterReferences owner ps) :=
  ((Draft.Collects.require imported).bind (fun _ => x.parametersAfter_collects owner [] ps)).congr
    (List.append_nil imported) rfl

/-- The parameters of a list fail for the first one without a Java type.  If there is none, then
they collapse, and what all of them require is imported too. -/
lemma parametersWith_cases (x : Dialect) (imported : List String) (owner : String)
    (ps : List Parameter) :
    (∃ before p after, ps = before ++ p :: after ∧
      (∀ q ∈ before, x.table.Supports q.type.base) ∧ ¬ x.table.Supports p.type.base ∧
      (x.parametersWith imported owner ps).outcome =
        .error ⟨p.type.base, owner ++ "(" ++ p.name ++ ")"⟩) ∨
    ((∀ p ∈ ps, x.table.Supports p.type.base) ∧
      ∃ qs, (x.parametersWith imported owner ps).outcome = .ok qs ∧ Collapses x.table ps qs ∧
        ∀ n, n ∈ (x.parametersWith imported owner ps).imports ↔
          n ∈ imported ∨ ∃ p ∈ ps, x.table.Requires p.type.base n) := by
  have hcollects := x.parametersWith_collects imported owner ps
  cases hout : (x.parametersWith imported owner ps).outcome with
  | error e =>
    left
    obtain ⟨r, ⟨before, after, hrefs, hbefore, hr⟩, rfl⟩ :=
      TypeTable.findSome?_unsupported?_iff.mp ((hcollects.error_iff e).mp hout)
    obtain ⟨front, back, rfl, rfl, hback⟩ := List.map_eq_append_iff.mp hrefs
    obtain ⟨p, rest, rfl, rfl, rfl⟩ := List.map_eq_cons_iff.mp hback
    exact ⟨front, p, rest, rfl, fun q hq => hbefore _ (List.mem_map_of_mem hq), hr, rfl⟩
  | ok qs =>
    right
    have hsupported := List.findSome?_eq_none_iff.mp (hcollects.findSome?_eq_none hout)
    refine ⟨fun p hp => ?_, qs, rfl, parameters_collapses hout, fun n => ?_⟩
    · exact TypeTable.unsupported?_eq_none_iff.mp (hsupported _ (List.mem_map_of_mem hp))
    · rw [hcollects.mem_imports qs hout]
      simp [parameterReferences, TypeTable.importOf?_eq_some_iff]

end Dialect

/-! ### Constructors and methods -/

/-- The constructor that a member is. -/
def ClassMember.constructor? : ClassMember → Option AssigningConstructor
  | .constructor c => some c
  | .field _ => none
  | .constant _ => none
  | .method _ => none

lemma ClassMember.constructor?_eq_some_iff {m : ClassMember} {c : AssigningConstructor} :
    m.constructor? = some c ↔ m = .constructor c := by
  cases m <;> simp [constructor?]

/-- The method that a member is. -/
def ClassMember.method? : ClassMember → Option ForwardingMethod
  | .method m => some m
  | .constructor _ => none
  | .field _ => none
  | .constant _ => none

/-- A constructor is written for one of a contract: its parameters are those of that one, collapsed,
and each of their names is assigned, in their order. -/
structure Assigns (t : TypeTable) (type : String) (c : Constructor)
    (written : AssigningConstructor) :
    Prop where
  parameters : Collapses t c.parameters written.parameters
  body : ∀ indent, (ClassMember.constructor written).body indent =
    line indent (type ++ "(" ++ signature written.parameters ++ ") " ++ openBrace)
      ++ String.join ((written.parameters.map (·.name)).map (fun name =>
        line (indent ++ indentUnit) ("this." ++ name ++ " = " ++ name ++ ";")))
      ++ line indent closeBrace

/-- A method is written for one of a contract: its parameters are those of that one, collapsed, and
their names are the arguments of the call, in their order. -/
structure Forwards (x : Dialect) (type : String) (m : Method) (written : ForwardingMethod) :
    Prop where
  parameters : Collapses x.table m.parameters written.parameters
  body : ∀ indent, (ClassMember.method written).body indent =
    line indent ("public static " ++ written.returnType ++ " " ++ identifier m.name
        ++ "(" ++ signature written.parameters ++ ") " ++ openBrace)
      ++ line (indent ++ indentUnit) ((if written.returnType == "void" then "" else "return ")
        ++ (type ++ x.companion.suffix ++ "." ++ identifier m.name
          ++ "(" ++ commaSeparated (written.parameters.map (·.name)) ++ ")") ++ ";")
      ++ line indent closeBrace

namespace Dialect

variable {x : Dialect} {d : Declaration}

lemma exists_forwards {m : Method} {member : ClassMember}
    (h : (x.method d m).outcome = .ok member) :
    ∃ written, member.method? = some written ∧ Forwards x d.name m written := by
  obtain ⟨type, ps, hps, rfl⟩ := method_eq_ok h
  exact ⟨_, rfl, parameters_collapses hps, fun indent => rfl⟩

/-- The constructors that are written are those with parameters. -/
lemma constructors_assign {cs : List Constructor} {members : List (List ClassMember)}
    (h : List.Forall₂ (fun c ms => (x.constructor d c).outcome = .ok ms) cs members) :
    List.Forall₂ (Assigns x.table d.name) (cs.filter (fun c => !c.parameters.isEmpty))
      (members.flatten.filterMap ClassMember.constructor?) := by
  induction h with
  | nil => exact .nil
  | @cons c ms _ _ hc _ ih =>
    have hnil := constructor_eq_nil_iff hc
    obtain ⟨ps, hps, hms⟩ := constructor_eq_ok hc
    rw [List.flatten_cons, List.filterMap_append]
    by_cases hempty : c.parameters = []
    · rw [hnil.mpr hempty]
      simpa [hempty] using ih
    · have hwritten : ms = [.constructor ⟨c.documentation, d.name, ps⟩] := by
        rw [hms, if_neg]
        intro hps
        rw [hms, if_pos hps] at hnil
        exact hempty (hnil.mp rfl)
      rw [hwritten, List.filter_cons_of_pos (by simp [hempty])]
      refine .cons ⟨parameters_collapses hps, fun indent => ?_⟩ ih
      rw [ClassMember.body, List.map_map]
      rfl

/-- Apart from fields and constants, the members of a class are those of its constructors and
methods. -/
lemma filterMap_members {γ : Type} {f : ClassMember → Option γ} (hfield : ∀ v, f (.field v) = none)
    (hconstant : ∀ c, f (.constant c) = none) {members : List ClassMember}
    (h : (x.members d).outcome = .ok members) :
    ∃ constructors methods,
      List.Forall₂ (fun c ms => (x.constructor d c).outcome = .ok ms) d.constructors constructors ∧
      List.Forall₂ (fun m member => (x.method d m).outcome = .ok member)
        (d.methods.filter (fun m => decide (IsPublicStatic m))) methods ∧
      members.filterMap f = constructors.flatten.filterMap f ++ methods.filterMap f := by
  obtain ⟨constructors, properties, constants, methods, hconstructors, hproperties, hconstants,
    hmethods, rfl⟩ := members_eq_ok h
  refine ⟨constructors, methods, hconstructors, hmethods, ?_⟩
  have hps : properties.filterMap f = [] := by
    refine filterMap_eq_nil_of_forall₂ hproperties (fun p member hdraft => ?_)
    obtain ⟨type, value, rfl⟩ := property_eq_ok hdraft
    exact hfield _
  have hks : constants.filterMap f = [] := by
    refine filterMap_eq_nil_of_forall₂ hconstants (fun c member hdraft => ?_)
    obtain ⟨type, rfl⟩ := constant_eq_ok hdraft
    exact hconstant _
  rw [List.filterMap_append, List.filterMap_append, List.filterMap_append, hps, hks,
    List.append_nil, List.append_nil]

lemma members_assign {members : List ClassMember} (h : (x.members d).outcome = .ok members) :
    List.Forall₂ (Assigns x.table d.name) (d.constructors.filter (fun c => !c.parameters.isEmpty))
      (members.filterMap ClassMember.constructor?) := by
  obtain ⟨constructors, methods, hconstructors, hmethods, hmembers⟩ :=
    filterMap_members (f := ClassMember.constructor?) (fun _ => rfl) (fun _ => rfl) h
  have hms : methods.filterMap ClassMember.constructor? = [] := by
    refine filterMap_eq_nil_of_forall₂ hmethods (fun m member hdraft => ?_)
    obtain ⟨type, ps, -, rfl⟩ := method_eq_ok hdraft
    rfl
  rw [hmembers, hms, List.append_nil]
  exact constructors_assign hconstructors

lemma members_forward {members : List ClassMember} (h : (x.members d).outcome = .ok members) :
    List.Forall₂ (Forwards x d.name) (d.methods.filter (fun m => decide (IsPublicStatic m)))
      (members.filterMap ClassMember.method?) := by
  obtain ⟨constructors, methods, hconstructors, hmethods, hmembers⟩ :=
    filterMap_members (f := ClassMember.method?) (fun _ => rfl) (fun _ => rfl) h
  have hcs : constructors.flatten.filterMap ClassMember.method? = [] := by
    rw [List.filterMap_flatten, List.flatten_eq_nil_iff]
    intro l hl
    obtain ⟨ms, hms, rfl⟩ := List.mem_map.mp hl
    obtain ⟨c, -, hdraft⟩ := exists_left_of_forall₂ hconstructors ms hms
    obtain ⟨ps, -, rfl⟩ := constructor_eq_ok hdraft
    split <;> rfl
  rw [hmembers, hcs, List.nil_append]
  exact forall₂_filterMap hmethods (fun m member hdraft => exists_forwards hdraft)

end Dialect

/-! ### Files -/

namespace Writer

/-- **Parameters with one name in Java become one parameter.**  Mapping a list of parameters,
whatever is imported before, fails for the first one without a Java type.  Otherwise it gives one
parameter for each identifier, in the order in which these occur first, with the type of the last
parameter of the identifier, and it imports what all of them require.  So in each class of a file
the constructors with parameters and the public static methods are written with distinct names, and
these names, in their order, are what is assigned or handed on. -/
theorem parameters_collapse_by_name (w : Writer) :
    (∀ (imported : List String) (owner : String) (ps : List Parameter),
      (∃ before p after, ps = before ++ p :: after ∧
        (∀ q ∈ before, w.table.Supports q.type.base) ∧ ¬ w.table.Supports p.type.base ∧
        (w.parametersWith imported owner ps).outcome =
          .error ⟨p.type.base, owner ++ "(" ++ p.name ++ ")"⟩) ∨
      ((∀ p ∈ ps, w.table.Supports p.type.base) ∧
        ∃ qs, (w.parametersWith imported owner ps).outcome = .ok qs ∧ Collapses w.table ps qs ∧
          ∀ n, n ∈ (w.parametersWith imported owner ps).imports ↔
            n ∈ imported ∨ ∃ p ∈ ps, w.table.Requires p.type.base n)) ∧
    ∀ (config : Config) (excluded : String → Bool) (t : ContractType) (file : GeneratedFile),
      (w.emit config excluded t).outcome = .ok file →
        ∀ u, Rendered excluded t u → u.decl.isEnum = false →
          ∃ k head members nested,
            Holds file.text
              ((TypeDeclaration.classType head members nested).text w.docs (indentAt k)) ∧
            head.name = u.name ∧
            List.Forall₂ (Assigns w.table u.name)
              (u.decl.constructors.filter (fun c => !c.parameters.isEmpty))
              (members.filterMap ClassMember.constructor?) ∧
            List.Forall₂ (Forwards w.toDialect u.name)
              (u.decl.methods.filter (fun m => decide (IsPublicStatic m)))
              (members.filterMap ClassMember.method?) := by
  refine ⟨w.toDialect.parametersWith_cases, fun config excluded t file hfile u hu hclass => ?_⟩
  obtain ⟨k, declaration, hdeclaration, hholds⟩ := exists_declaration_of_rendered hfile hu
  obtain ⟨d, ns⟩ := u
  obtain ⟨members, types, hmembers, -, rfl⟩ := Dialect.type_of_class hclass hdeclaration
  exact ⟨k, _, members, types, hholds, name_headOf _ _, Dialect.members_assign hmembers,
    Dialect.members_forward hmembers⟩

/-- Parameters of which the first and the last have one name in Java. -/
def collapsingParameters : List Parameter :=
  [⟨"Address", ⟨"System.Uri", false, false⟩⟩, ⟨"name", ⟨"string", true, false⟩⟩,
    ⟨"address", ⟨"System.DateTime", false, true⟩⟩]

/-- A class with a constructor and a method that have these parameters. -/
def collapsingExample : ContractType :=
  .mk ⟨"Link", .plainClass, none, false, none, "Link.cs", [
    .constructor ⟨⟨"Link", .publicAccess, false, none⟩, []⟩,
    .constructor ⟨⟨"Link", .publicAccess, false, none⟩, collapsingParameters⟩,
    .method ⟨⟨"Open", .publicAccess, true, none⟩, ⟨"void", false, false⟩, collapsingParameters,
      .ordinary⟩]⟩ []

theorem parameters_collapse_collapsingExample :
    ∃ qs file indent, ((standard "Tunnels" .default).parametersWith ["java.util.Map"] "Link"
        collapsingParameters).outcome = .ok qs ∧
      qs.map (·.name) = ["address", "name"] ∧
      ((standard "Tunnels" .default).emit .default (fun _ => false) collapsingExample).outcome =
        .ok file ∧
      Holds file.text (line (indent ++ indentUnit) "this.address = address;"
        ++ line (indent ++ indentUnit) "this.name = name;" ++ line indent closeBrace) := by
  obtain ⟨hparameters, hfiles⟩ := parameters_collapse_by_name (standard "Tunnels" .default)
  have hnames : (collapsingParameters.map (fun p => identifier p.name)).eraseDups =
      ["address", "name"] := by
    rfl
  have hok : ((standard "Tunnels" .default).emit .default (fun _ => false)
      collapsingExample).outcome.isOk = true := by
    decide +kernel
  have hlist : ((standard "Tunnels" .default).parametersWith ["java.util.Map"] "Link"
      collapsingParameters).outcome.isOk = true := by
    decide +kernel
  obtain ⟨_, _, _, -, -, -, herror⟩ | ⟨-, qs, hqs, hcollapses, -⟩ :=
    hparameters ["java.util.Map"] "Link" collapsingParameters
  · rw [herror] at hlist
    cases hlist
  · obtain ⟨file, hfile⟩ := Succeeds.of_isOk hok
    obtain ⟨k, head, members, nested, hholds, -, hconstructors, -⟩ :=
      hfiles _ _ _ file hfile collapsingExample .self rfl
    -- the constructor without parameters is not written
    obtain ⟨written, rest, hassigns, -, hmembers⟩ := List.forall₂_cons_left_iff.mp hconstructors
    have hwritten : ClassMember.constructor written ∈ members := by
      have hmem : written ∈ members.filterMap ClassMember.constructor? := by simp [hmembers]
      obtain ⟨member, hmember, hsome⟩ := List.mem_filterMap.mp hmem
      rwa [ClassMember.constructor?_eq_some_iff.mp hsome] at hmember
    have hbody := hassigns.body (indentAt k ++ indentUnit)
    rw [hassigns.parameters.names, hnames, String.append_assoc] at hbody
    refine ⟨qs, file, indentAt k ++ indentUnit, hqs, hcollapses.names.trans hnames, hfile,
      (hholds.trans (TypeDeclaration.holds_text_member hwritten)).trans ?_⟩
    rw [ClassMember.text, hbody]
    exact ((Holds.refl _).append_left _).append_left _

end Writer

end DataContract.Java
