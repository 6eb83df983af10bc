/-
The model mirrors the document.

A model that was read has one type for each type object of its document, in the
same order, and each type has one member for each entry of its list of members.
What a part of the model says is what its part of the document says, or what
holds by default if the document says nothing.  A type has the source file of
the nearest type object, going outwards, that names one.
-/
import DataContract.Proofs.Model.Names
import DataContract.Proofs.Model.Reading
import DataContract.Proofs.Model.TypeSites
import Mathlib.Data.List.Forall2

namespace DataContract

open Value

/-! ### What a part of a document says -/

namespace Value

/-- What stands under a name, or what stands for it if there is nothing. -/
def fieldOr (v : Value) (name : String) (fallback : Value) : Value :=
  (v.field? name).getD fallback

/-- What the first of some objects that name a source file says. -/
def nearestSource? (objects : List Value) : Option Value :=
  objects.findSome? (fun o => o.field? "source_file")

end Value

namespace MemberKind

/-- The name of a member of a kind that is given none. -/
def defaultName? : MemberKind → Option String
  | .constructor => some ".ctor"
  | _ => none

/-- Whether a member of a kind is static if it does not say so. -/
def isStaticByDefault : MemberKind → Bool
  | .constant => true
  | .enumValue => true
  | _ => false

end MemberKind

/-- A reference is the one that a value writes. -/
def TypeRef.Mirrors (r : TypeRef) (v : Value) : Prop :=
  ∃ s, v = .str s ∧ r = TypeRef.parse s

/-- A parameter says what its object says. -/
structure Parameter.Mirrors (p : Parameter) (v : Value) : Prop where
  name : v.field? "name" = some (.str p.name)
  type : v.Requires "type" p.type.Mirrors

/-- What every member has is what the object of a member of a kind says. -/
structure MemberHead.Mirrors (kind : MemberKind) (h : MemberHead) (v : Value) : Prop where
  name : (v.field? "name").or (kind.defaultName?.map .str) = some (.str h.name)
  accessibility : v.fieldOr "accessibility" (.str "public") = .str h.accessibility.word
  isStatic : v.fieldOr "is_static" (.bool kind.isStaticByDefault) = .bool h.isStatic
  documentation : v.field? "documentation" = h.documentation.map .str

namespace Member

/-- What a member has beside that is what its object says. -/
def BodyMirrors (v : Value) : Member → Prop
  | .property p =>
    v.Requires "type" p.type.Mirrors ∧
      v.field? "initializer_source_text" = p.initializer.map .str
  | .constant c =>
    v.Requires "type" c.type.Mirrors ∧ v.Requires "value" (fun x => c.literal = literalText x)
  | .enumValue _ => True
  | .method m =>
    m.returnType.Mirrors (v.fieldOr "return_type" (.str "void")) ∧
      List.Forall₂ Parameter.Mirrors m.parameters (v.itemsOf "parameters") ∧
      v.fieldOr "method_kind" (.str "ordinary") = .str m.kind.word
  | .constructor c => List.Forall₂ Parameter.Mirrors c.parameters (v.itemsOf "parameters")

/-- A member is of the kind that its object is tagged with, and says what the object says. -/
structure Mirrors (m : Member) (v : Value) : Prop where
  kind : v.field? Schema.discriminator = some (.str m.kind.word)
  head : m.head.Mirrors m.kind v
  body : m.BodyMirrors v

end Member

/-- What a type declares itself is what its object says; the source file can be that of another. -/
structure Declaration.Mirrors (d : Declaration) (v : Value) : Prop where
  name : v.field? "name" = some (.str d.name)
  kind : v.fieldOr "kind" (.str "class") = .str d.kind.word
  base : v.field? "base_type" = d.base.map .str
  isStatic : v.fieldOr "is_static" (.bool false) = .bool d.isStatic
  documentation : v.field? "documentation" = d.documentation.map .str
  members : List.Forall₂ Member.Mirrors d.members (v.itemsOf "members")

/-- A type declares what its object says, has as many types in it, and has the source file of the
nearest object, going outwards, that names one. -/
structure ContractType.Mirrors (t : ContractType) (s : TypeSite) : Prop where
  decl : t.decl.Mirrors s.object
  nested : t.nested.length = (s.object.itemsOf "nested_types").length
  sourceFile : nearestSource? (s.object :: s.containers) = some (.str t.decl.sourceFile)

/-! ### Entries -/

namespace Entries

variable {es : Entries} {name : String}

lemma field?_of_text? {o : Option String} (h : es.text? name = .ok o)
    (hform : (Value.map es).Allows name IsText) :
    (Value.map es).field? name = o.map .str := by
  rw [Entries.text?] at h
  rw [field?_map]
  cases hx : es.get? name with
  | none =>
    rw [hx] at h
    cases h
    rfl
  | some x =>
    obtain ⟨s, rfl⟩ := hform x hx
    rw [hx] at h
    cases h
    rfl

/-- The word that was read stands in the entry, or the one that holds by default. -/
lemma fieldOr_of_word {α : Type} {all : List α} {word : α → String} {fallback a : α}
    (h : es.word name (fun w => all.find? (fun b => word b == w)) fallback = .ok a) :
    (Value.map es).fieldOr name (.str (word fallback)) = .str (word a) := by
  rw [Entries.word] at h
  rw [fieldOr, field?_map]
  split at h
  · rename_i w hget
    split at h
    · rename_i b hb
      cases h
      have hword : word a = w := by simpa using List.find?_some hb
      rw [hget, hword]
      rfl
    · cases h
  · cases h
  · rename_i hget
    cases h
    rw [hget]
    rfl

lemma fieldOr_bool (fallback : Bool) (hform : (Value.map es).Allows name IsTruthValue) :
    (Value.map es).fieldOr name (.bool fallback) = .bool (es.bool name fallback) := by
  rw [Entries.bool, fieldOr, field?_map]
  cases hx : es.get? name with
  | none => rfl
  | some x =>
    obtain ⟨b, rfl⟩ := hform x hx
    rfl

lemma itemsOf_of_items {l : List Value} (h : es.items name = .ok l) :
    (Value.map es).itemsOf name = l := by
  rw [Entries.items] at h
  split at h
  · rename_i hget
    cases h
    exact itemsOf_of_list hget
  · cases h
  · rename_i hget
    cases h
    exact itemsOf_of_none hget

end Entries

/-! ### Members -/

lemma TypeRef.mirrors_of_text {es : Entries} {name s : String} (h : es.text name = .ok s)
    {r : TypeRef} (hr : r = TypeRef.parse s) : (Value.map es).Requires name r.Mirrors :=
  ⟨.str s, Entries.get?_of_text h, s, rfl, hr⟩

lemma readParameter_mirrors {v : Value} {p : Parameter} (h : readParameter v = .ok p) :
    p.Mirrors v := by
  rw [readParameter] at h
  obtain ⟨es, hes, h⟩ := bind_eq_ok h
  obtain ⟨name, hname, h⟩ := bind_eq_ok h
  obtain ⟨type, htype, h⟩ := bind_eq_ok h
  cases h
  cases v with
  | map entries =>
    cases hes
    exact ⟨Entries.get?_of_text hname, TypeRef.mirrors_of_text htype rfl⟩
  | _ => cases hes

lemma readParameters_mirrors {es : Entries} {ps : List Parameter}
    (h : readParameters es = .ok ps) :
    List.Forall₂ Parameter.Mirrors ps ((Value.map es).itemsOf "parameters") := by
  rw [readParameters] at h
  obtain ⟨items, hitems, h⟩ := bind_eq_ok h
  rw [Entries.itemsOf_of_items hitems]
  exact ((mapM_eq_ok h).imp (fun v p => readParameter_mirrors)).flip

lemma readHead_mirrors {kind : MemberKind} {es : Entries} {head : MemberHead}
    (h : readHead kind es = .ok head) (hform : (Value.map es).HasMemberHead) :
    head.Mirrors kind (.map es) := by
  -- only the name is read in another way in a constructor
  have hrest : ∀ name isStatic, (do
      let accessibility ← es.word "accessibility" Accessibility.ofWord? .publicAccess
      let documentation ← es.text? "documentation"
      return (⟨name, accessibility, isStatic, documentation⟩ : MemberHead)) = .ok head →
      isStatic = es.bool "is_static" kind.isStaticByDefault →
      ((Value.map es).field? "name").or (kind.defaultName?.map .str) = some (.str name) →
      head.Mirrors kind (.map es) := by
    rintro name _ hread rfl hname
    obtain ⟨access, haccess, hread⟩ := bind_eq_ok hread
    obtain ⟨doc, hdoc, hread⟩ := bind_eq_ok hread
    cases hread
    exact ⟨hname, Entries.fieldOr_of_word haccess,
      Entries.fieldOr_bool _ hform.isStatic, Entries.field?_of_text? hdoc hform.documentation⟩
  cases kind with
  | constructor =>
    obtain ⟨name, hname, h⟩ := bind_eq_ok h
    refine hrest name _ h rfl ?_
    cases ho : es.text? "name" with
    | error e =>
      rw [ho] at hname
      cases hname
    | ok o =>
      rw [ho] at hname
      cases hname
      rw [Entries.field?_of_text? ho (hform.name.imp (fun _ => IsNonEmptyText.isText))]
      cases o <;> rfl
  | _ =>
    obtain ⟨name, hname, h⟩ := bind_eq_ok h
    refine hrest name _ h rfl ?_
    rw [show (Value.map es).field? "name" = some (.str name) from Entries.get?_of_text hname]
    rfl

/-- A member of the language is read as it is written. -/
lemma readMember_mirrors {v : Value} (hform : v.IsMember) {m : Member}
    (h : readMember v = .ok m) : m.Mirrors v := by
  obtain ⟨kind, htag, hhead, hbody⟩ := hform
  obtain ⟨es, rfl⟩ := exists_map_of_field? htag
  rw [readMember] at h
  obtain ⟨entries, hes, h⟩ := bind_eq_ok h
  cases hes
  obtain ⟨tag, hword, h⟩ := bind_eq_ok h
  -- the tag that is read is the word for the kind that the member is known to have
  obtain rfl : tag = kind.word := by
    have hfield : (Value.map es).field? "member" = some (.str tag) := Entries.get?_of_text hword
    rw [htag, Option.some.injEq, Value.str.injEq] at hfield
    exact hfield.symm
  rw [MemberKind.ofWord?_word] at h
  obtain ⟨head, hread, h⟩ := bind_eq_ok h
  have hmirrors := readHead_mirrors hread hhead
  cases kind with
  | property =>
    obtain ⟨type, htype, h⟩ := bind_eq_ok h
    obtain ⟨init, hinit, h⟩ := bind_eq_ok h
    cases h
    exact ⟨htag, hmirrors, TypeRef.mirrors_of_text htype rfl,
      Entries.field?_of_text? hinit hbody.2.2⟩
  | constant =>
    obtain ⟨-, -, x, hx⟩ := hbody
    obtain ⟨type, htype, h⟩ := bind_eq_ok h
    rw [field?_map] at hx
    rw [hx] at h
    obtain ⟨literal, hliteral, h⟩ := bind_eq_ok h
    cases h
    refine ⟨htag, hmirrors, TypeRef.mirrors_of_text htype rfl, x, hx, ?_⟩
    rw [readLiteral] at hliteral
    split at hliteral
    · cases hliteral
      rfl
    · cases hliteral
  | enumValue =>
    cases h
    exact ⟨htag, hmirrors, trivial⟩
  | method =>
    obtain ⟨-, hreturn, -, -⟩ := hbody
    obtain ⟨type, htype, h⟩ := bind_eq_ok h
    obtain ⟨ps, hps, h⟩ := bind_eq_ok h
    obtain ⟨methodKind, hkind, h⟩ := bind_eq_ok h
    cases h
    have hfield := Entries.field?_of_text? htype (hreturn.imp (fun _ => IsTextLike.isText))
    refine ⟨htag, hmirrors, ⟨type.getD "void", ?_, rfl⟩, readParameters_mirrors hps,
      Entries.fieldOr_of_word hkind⟩
    rw [fieldOr, hfield]
    cases type <;> rfl
  | constructor =>
    obtain ⟨ps, hps, h⟩ := bind_eq_ok h
    cases h
    exact ⟨htag, hmirrors, readParameters_mirrors hps⟩

/-! ### Types -/

lemma readDeclaration_mirrors {source : String} {es : Entries} {d : Declaration}
    (h : readDeclaration source es = .ok d) (hform : (Value.map es).HasTypeHead) :
    d.Mirrors (.map es) := by
  have hname := readDeclaration_name h
  rw [readDeclaration] at h
  obtain ⟨name, -, h⟩ := bind_eq_ok h
  obtain ⟨kind, hkind, h⟩ := bind_eq_ok h
  obtain ⟨base, hbase, h⟩ := bind_eq_ok h
  obtain ⟨items, hitems, h⟩ := bind_eq_ok h
  obtain ⟨members, hmembers, h⟩ := bind_eq_ok h
  obtain ⟨doc, hdoc, h⟩ := bind_eq_ok h
  cases h
  refine ⟨hname, Entries.fieldOr_of_word hkind,
    Entries.field?_of_text? hbase hform.base, Entries.fieldOr_bool _ hform.isStatic,
    Entries.field?_of_text? hdoc hform.documentation, ?_⟩
  have hlisted := Entries.itemsOf_of_items hitems
  rw [hlisted]
  -- that the listed values are members is known from the schema, not from the reader
  have hmember : ∀ v ∈ items, v.IsMember := by
    intro v hv
    rw [← hlisted] at hv
    obtain ⟨l, hl, hall⟩ := hform.members _ (field?_of_mem_itemsOf hv)
    cases hl
    exact hall v hv
  have hread := (List.forall₂_and_left _ _).mpr ⟨hmember, mapM_eq_ok hmembers⟩
  exact (hread.imp (fun v m hm => readMember_mirrors hm.1 hm.2)).flip

/-- The nearest source file is that of the object itself, or the one that holds around it. -/
lemma nearestSource?_cons {v : Value} (hv : v.HasTypeHead) {containers : List Value}
    {inherited : String} (h : nearestSource? containers = some (.str inherited)) :
    nearestSource? (v :: containers) =
      some (.str ((TypeObject.ofValue v).source?.getD inherited)) := by
  rw [TypeObject.source?_ofValue, nearestSource?, List.findSome?_cons]
  cases hx : v.field? "source_file" with
  | none => exact h
  | some x =>
    obtain ⟨s, rfl⟩ := hv.sourceFile x hx
    rfl

/-- At the top an object has to name its source file. -/
lemma nearestSource?_top {v : Value} (hv : v.Requires "source_file" IsNonEmptyText)
    (inherited : String) :
    nearestSource? [v] = some (.str ((TypeObject.ofValue v).source?.getD inherited)) := by
  obtain ⟨x, hx, s, rfl, -⟩ := hv
  rw [TypeObject.source?_ofValue, nearestSource?, List.findSome?_cons, hx]
  rfl

lemma flatMap_typeSites (types : List Value) :
    types.flatMap typeSites = types.zipIdx.flatMap (fun e => e.1.typeSites) := by
  conv_lhs => rw [← List.zipIdx_map_fst 0 types, List.flatMap_map]

lemma readTypes_forall₂ {inherited : String} {items : List Value} {ns : List ContractType}
    (h : readTypes inherited (items.map TypeObject.ofValue) = .ok ns) :
    List.Forall₂ (fun v n => readType inherited (TypeObject.ofValue v) = .ok n) items ns := by
  induction items generalizing ns with
  | nil =>
    rw [List.map_nil, readTypes] at h
    cases h
    exact .nil
  | cons v rest ih =>
    rw [List.map_cons, readTypes] at h
    obtain ⟨first, hfirst, h⟩ := bind_eq_ok h
    obtain ⟨others, hothers, h⟩ := bind_eq_ok h
    cases h
    exact .cons hfirst (ih hothers)

/-- The types within those of a list mirror the sites in the items, one item after another. -/
lemma forall₂_walkAll {ns : List ContractType} {items : List Value} {k : Nat}
    {sites : Value × Nat → List TypeSite}
    (h : List.Forall₂ (fun v n => ∀ j, List.Forall₂ ContractType.Mirrors n.walk (sites (v, j)))
      items ns) :
    List.Forall₂ ContractType.Mirrors (ContractType.walkAll ns)
      ((items.zipIdx k).flatMap sites) := by
  induction h generalizing k with
  | nil => exact .nil
  | cons hfirst _ ih =>
    rw [ContractType.walkAll, List.zipIdx_cons, List.flatMap_cons]
    exact List.rel_append (hfirst k) ih

/-- The types within one that was read mirror the type objects within its object. -/
lemma readType_mirrors {v : Value} (hv : v.IsType) {inherited : String} {t : ContractType}
    (h : readType inherited (TypeObject.ofValue v) = .ok t) (indices : List Nat)
    {containers : List Value}
    (hsource : nearestSource? (v :: containers) =
      some (.str ((TypeObject.ofValue v).source?.getD inherited))) :
    List.Forall₂ ContractType.Mirrors t.walk (typeSitesFrom indices containers v) := by
  induction hv generalizing inherited t indices containers with
  | @intro v head list nested ih =>
    obtain ⟨hdecl, hnested⟩ := readType_eq_ok h
    rw [TypeObject.nested_ofValue_eq_map] at hnested
    have hread := readTypes_forall₂ hnested
    have hfile := readDeclaration_sourceFile hdecl
    obtain ⟨es, rfl⟩ := exists_map_of_field? head.name.choose_spec.1
    rw [ContractType.walk_eq_cons, typeSitesFrom_eq]
    refine .cons ⟨readDeclaration_mirrors hdecl head, hread.length_eq.symm, hfile ▸ hsource⟩ ?_
    -- for the types right inside, this object is the innermost one around them
    refine forall₂_walkAll (((List.forall₂_and_left _ _).mpr ⟨fun _ hu => hu, hread⟩).imp ?_)
    rintro u n ⟨hu, hn⟩ j
    have hfield := field?_of_mem_itemsOf hu
    have hhead : u.HasTypeHead := (isType_iff.mp (nested _ hfield u hu)).1
    exact ih _ hfield u hu hn _ (nearestSource?_cons hhead hsource)

namespace Model

/-- Each type at the top mirrors an object at the top, with all that is nested in it. -/
lemma exists_typeSites_mirrored {v : Value} {m : Model} (h : ofValue v = .ok m) {t : ContractType}
    (ht : t ∈ m.types) :
    ∃ types, v.field? "types" = some (.list types) ∧
      ∃ o ∈ types, List.Forall₂ ContractType.Mirrors t.walk o.typeSites := by
  obtain ⟨es, rfl, hschema, hstructure, -, hread⟩ := ofValue_eq_ok h
  have hnil : documentIssues (.map es) = [] := by
    simp only [documentIssues.eq_def, hschema]
    exact hstructure
  obtain ⟨types, hdoc⟩ := isDocument_of_documentIssues hnil
  rw [typeObjects_of_list hdoc.types_eq] at hread
  obtain ⟨object, hobject, htype⟩ := exists_object_of_mem hread t ht
  obtain ⟨o, ho, rfl⟩ := List.mem_map.mp hobject
  exact ⟨types, hdoc.types_eq, o, ho,
    readType_mirrors (hdoc.isType o ho) htype [] (nearestSource?_top (hdoc.sourceFile o ho) "")⟩

/-- **The model mirrors the document.**  The types of a model that was read, each before those
nested in it, are one for each type object of the document, in the order of the document; so they
have the names that stand there, and they are as many.  Each of them says what its object says, in
all its members, and has the source file of the nearest object, going outwards, that names one. -/
theorem types_mirror_document {v : Value} {m : Model} (h : ofValue v = .ok m) :
    ∃ types, v.field? "types" = some (.list types) ∧
      List.Forall₂ ContractType.Mirrors (ContractType.walkAll m.types)
        (types.flatMap typeSites) ∧
      (ContractType.walkAll m.types).map (fun t => some (.str t.name)) =
        (types.flatMap typeSites).map (fun s => s.object.field? "name") ∧
      m.typeCount = (types.flatMap typeSites).length := by
  obtain ⟨es, rfl, hschema, hstructure, -, hread⟩ := ofValue_eq_ok h
  have hnil : documentIssues (.map es) = [] := by
    simp only [documentIssues.eq_def, hschema]
    exact hstructure
  obtain ⟨types, hdoc⟩ := isDocument_of_documentIssues hnil
  have hmirror : List.Forall₂ ContractType.Mirrors (ContractType.walkAll m.types)
      (types.flatMap typeSites) := by
    rw [typeObjects_of_list hdoc.types_eq] at hread
    rw [flatMap_typeSites]
    refine forall₂_walkAll
      (((List.forall₂_and_left _ _).mpr ⟨fun _ ht => ht, readTypes_forall₂ hread⟩).imp ?_)
    rintro t n ⟨ht, hn⟩ -
    exact readType_mirrors (hdoc.isType t ht) hn [] (nearestSource?_top (hdoc.sourceFile t ht) "")
  refine ⟨types, hdoc.types_eq, hmirror, ?_, hmirror.length_eq⟩
  rw [← List.forall₂_eq_eq_eq, List.forall₂_map_left_iff, List.forall₂_map_right_iff]
  exact hmirror.imp (fun t s hts => hts.decl.name.symm)

/-- A document in which a source file holds for what is nested, until another one is named. -/
def inheritedExample : Value :=
  .map [(.str "ir_version", .str "1.0"), (.str "namespace", .str "Tunnels"),
    (.str "types", .list [.map [(.str "name", .str "Port"), (.str "source_file", .str "Port.cs"),
      (.str "members", .list [
        .map [(.str "member", .str "constructor"), (.str "parameters", .list [
          .map [(.str "name", .str "number"), (.str "type", .str "ushort")]])],
        .map [(.str "member", .str "const_field"), (.str "name", .str "Max"),
          (.str "type", .str "int"), (.str "value", .bool true)]]),
      (.str "nested_types", .list [
        .map [(.str "name", .str "Kind"), (.str "kind", .str "enum")],
        .map [(.str "name", .str "Mode"), (.str "source_file", .str "Mode.cs"),
          (.str "nested_types", .list [.map [(.str "name", .str "Flag")]])]])]])]

theorem types_mirror_inheritedExample :
    ∃ m types, ofValue inheritedExample = .ok m ∧
      inheritedExample.field? "types" = some (.list types) ∧
      List.Forall₂ ContractType.Mirrors (ContractType.walkAll m.types) (types.flatMap typeSites) ∧
      (ContractType.walkAll m.types).map (fun t => (t.name, t.decl.sourceFile)) =
        [("Port", "Port.cs"), ("Kind", "Port.cs"), ("Mode", "Mode.cs"), ("Flag", "Mode.cs")] := by
  have hread : (ofValue inheritedExample).toOption.map
      (fun m => (ContractType.walkAll m.types).map (fun t => (t.name, t.decl.sourceFile))) =
        some [("Port", "Port.cs"), ("Kind", "Port.cs"), ("Mode", "Mode.cs"),
          ("Flag", "Mode.cs")] := by
    decide +kernel
  obtain ⟨m, hm, hfiles⟩ := Option.map_eq_some_iff.mp hread
  have hok := eq_ok_of_toOption hm
  obtain ⟨types, htypes, hmirror, -, -⟩ := types_mirror_document hok
  exact ⟨m, types, hok, htypes, hmirror, hfiles⟩

end Model

end DataContract
