/-
Which types a file renders, and which references are written for them.

A file renders its type and the types nested in a class that it renders, except
those that are excluded; types nested in an enumeration are left out.  The
references of a class are those of its constructors, properties, constants and
public static methods, in this order.  Drafting a type fails at the first of
them without a Java type, and collects the annotations and the imports of all of
them.
-/
import DataContract.Java.Contract
import DataContract.Proofs.Java.Drafting
import DataContract.Proofs.Model.Nesting

namespace DataContract.Java

/-! ### The references of a type -/

/-- The references of parameters. -/
def parameterReferences (owner : String) (ps : List Parameter) : List Reference :=
  ps.map (fun p => ⟨p.type, owner ++ "(" ++ p.name ++ ")"⟩)

/-- A method that is called without an instance and from everywhere. -/
def IsPublicStatic (m : Method) : Prop :=
  m.isStatic = true ∧ m.kind = .ordinary ∧ m.accessibility = .publicAccess

instance (m : Method) : Decidable (IsPublicStatic m) :=
  inferInstanceAs (Decidable (_ ∧ _ ∧ _))

/-- The references of a method: what it returns, and its parameters. -/
def methodReferences (d : Declaration) (m : Method) : List Reference :=
  ⟨m.returnType, d.name ++ "." ++ m.name⟩ ::
    parameterReferences (d.name ++ "." ++ m.name) m.parameters

/-- The references of a class, in the order in which they are written. -/
def classReferences (d : Declaration) : List Reference :=
  d.constructors.flatMap (fun c => parameterReferences d.name c.parameters)
    ++ d.properties.map (fun p => ⟨p.type, d.name ++ "." ++ p.name⟩)
    ++ d.constants.map (fun c => ⟨c.type, d.name ++ "." ++ c.name⟩)
    ++ (d.methods.filter (fun m => decide (IsPublicStatic m))).flatMap (methodReferences d)

/-- The references of a type; an enumeration has none. -/
def references (d : Declaration) : List Reference :=
  if d.isEnum then [] else classReferences d

/-- The annotations that a type uses. -/
def annotations (d : Declaration) : List String :=
  if d.isEnum then [serializedNameType, exposeType]
  else if d.isStaticClass then [] else [exposeType]

lemma mem_references_iff {d : Declaration} {r : Reference} :
    r ∈ references d ↔ d.isEnum = false ∧ r ∈ classReferences d := by
  rw [references]
  cases d.isEnum <;> simp

lemma mem_annotations_iff {d : Declaration} {n : String} :
    n ∈ annotations d ↔
      n = exposeType ∧ (d.isEnum = true ∨ d.isStaticClass = false) ∨
      n = serializedNameType ∧ d.isEnum = true := by
  rw [annotations]
  cases d.isEnum <;> cases d.isStaticClass <;> simp [or_comm]

/-! ### The types that are rendered -/

/-- The types that the file of a type renders. -/
inductive Rendered (excluded : String → Bool) (t : ContractType) : ContractType → Prop
  | self : Rendered excluded t t
  | nested {u n : ContractType} (outer : Rendered excluded t u) (isClass : u.decl.isEnum = false)
      (inside : n ∈ u.nested) (kept : excluded n.name = false) : Rendered excluded t n

mutual

/-- The types that the file of a type renders, each before what is nested in it. -/
def renderOrder (excluded : String → Bool) : ContractType → List ContractType
  | .mk d ns => .mk d ns :: (if d.isEnum then [] else renderOrderAll excluded ns)

/-- The types that are rendered for those of a list that are not excluded. -/
def renderOrderAll (excluded : String → Bool) : List ContractType → List ContractType
  | [] => []
  | t :: rest =>
    if excluded t.name then renderOrderAll excluded rest
    else renderOrder excluded t ++ renderOrderAll excluded rest

end

variable {excluded : String → Bool}

lemma mem_renderOrder_mk {d : Declaration} {ns : List ContractType} {u : ContractType} :
    u ∈ renderOrder excluded (.mk d ns) ↔
      u = .mk d ns ∨ d.isEnum = false ∧ u ∈ renderOrderAll excluded ns := by
  rw [renderOrder]
  cases d.isEnum <;> simp

lemma mem_renderOrderAll {ns : List ContractType} {u : ContractType} :
    u ∈ renderOrderAll excluded ns ↔
      ∃ t ∈ ns, excluded t.name = false ∧ u ∈ renderOrder excluded t := by
  induction ns with
  | nil => simp [renderOrderAll]
  | cons t rest ih =>
    rw [renderOrderAll]
    cases hname : excluded t.name <;> simp [ih, hname]

/-- What a rendered type renders is rendered. -/
lemma Rendered.trans {t u v : ContractType} (htu : Rendered excluded t u)
    (huv : Rendered excluded u v) : Rendered excluded t v := by
  induction huv with
  | self => exact htu
  | nested _ isClass inside kept ih => exact .nested ih isClass inside kept

/-- The types in render order are closed under taking the nested types that are rendered. -/
lemma mem_renderOrder_nested {t u n : ContractType} (hu : u ∈ renderOrder excluded t)
    (hclass : u.decl.isEnum = false) (hn : n ∈ u.nested) (hkept : excluded n.name = false) :
    n ∈ renderOrder excluded t := by
  induction t using ContractType.nestedInduction with
  | mk d ns ih =>
    rw [mem_renderOrder_mk] at hu ⊢
    obtain rfl | ⟨hd, hu⟩ := hu
    · -- the nested type lies directly in the type at the top
      have hself : n ∈ renderOrder excluded n := by
        obtain ⟨dn, nsn⟩ := n
        exact mem_renderOrder_mk.mpr (.inl rfl)
      exact .inr ⟨hclass, mem_renderOrderAll.mpr ⟨n, hn, hkept, hself⟩⟩
    · obtain ⟨s, hs, hsname, hus⟩ := mem_renderOrderAll.mp hu
      exact .inr ⟨hd, mem_renderOrderAll.mpr ⟨s, hs, hsname, ih s hs hus⟩⟩

/-- The render order lists exactly the types that are rendered. -/
lemma mem_renderOrder_iff {t u : ContractType} :
    u ∈ renderOrder excluded t ↔ Rendered excluded t u := by
  constructor
  · intro hu
    induction t using ContractType.nestedInduction with
    | mk d ns ih =>
      obtain rfl | ⟨hd, hu⟩ := mem_renderOrder_mk.mp hu
      · exact .self
      · obtain ⟨s, hs, hsname, hus⟩ := mem_renderOrderAll.mp hu
        have hfirst : Rendered excluded (.mk d ns) s := .nested .self hd hs hsname
        exact hfirst.trans (ih s hs hus)
  · intro h
    induction h with
    | self =>
      obtain ⟨d, ns⟩ := t
      exact mem_renderOrder_mk.mpr (.inl rfl)
    | nested _ isClass inside kept ih => exact mem_renderOrder_nested ih isClass inside kept

/-- The references of all types that a file renders, in the order in which they are written. -/
def renderedReferences (excluded : String → Bool) (t : ContractType) : List Reference :=
  (renderOrder excluded t).flatMap (fun u => references u.decl)

/-- The annotations of all types that a file renders. -/
def renderedAnnotations (excluded : String → Bool) (t : ContractType) : List String :=
  (renderOrder excluded t).flatMap (fun u => annotations u.decl)

/-- One of the references that are written is one of a class that is rendered. -/
lemma exists_renderedReferences_iff {t : ContractType} {P : Reference → Prop} :
    (∃ r ∈ renderedReferences excluded t, P r) ↔
      ∃ u, Rendered excluded t u ∧ u.decl.isEnum = false ∧ ∃ r ∈ classReferences u.decl, P r := by
  simp only [renderedReferences, List.mem_flatMap, mem_renderOrder_iff, mem_references_iff]
  constructor
  · rintro ⟨r, ⟨u, hu, hclass, hr⟩, h⟩
    exact ⟨u, hu, hclass, r, hr, h⟩
  · rintro ⟨u, hu, hclass, r, hr, h⟩
    exact ⟨r, ⟨u, hu, hclass, hr⟩, h⟩

lemma mem_renderedAnnotations_iff {t : ContractType} {n : String} :
    n ∈ renderedAnnotations excluded t ↔
      (n = exposeType ∧ ∃ u, Rendered excluded t u ∧
        (u.decl.isEnum = true ∨ u.decl.isStaticClass = false)) ∨
      (n = serializedNameType ∧ ∃ u, Rendered excluded t u ∧ u.decl.isEnum = true) := by
  simp only [renderedAnnotations, List.mem_flatMap, mem_renderOrder_iff, mem_annotations_iff]
  constructor
  · rintro ⟨u, hu, ⟨rfl, h⟩ | ⟨rfl, h⟩⟩
    · exact .inl ⟨rfl, u, hu, h⟩
    · exact .inr ⟨rfl, u, hu, h⟩
  · rintro (⟨rfl, u, hu, h⟩ | ⟨rfl, u, hu, h⟩)
    · exact ⟨u, hu, .inl ⟨rfl, h⟩⟩
    · exact ⟨u, hu, .inr ⟨rfl, h⟩⟩

/-! ### What drafting a type collects -/

namespace Dialect

open Draft (Collects)

variable (x : Dialect)

lemma isForwarded_eq (m : Method) : isForwarded m = decide (IsPublicStatic m) := by
  rw [isForwarded, Bool.eq_iff_iff, decide_eq_true_iff]
  simp [IsPublicStatic, and_assoc]

lemma parametersAfter_collects (owner : String) (acc : List FormalParameter)
    (ps : List Parameter) :
    Collects x.table (x.parametersAfter owner acc ps) [] (parameterReferences owner ps) := by
  induction ps generalizing acc with
  | nil =>
    rw [parametersAfter]
    exact Collects.pure acc
  | cons p rest ih =>
    rw [parametersAfter]
    exact Collects.bind (Collects.typeOf p.type _) (fun type => ih _)

lemma constructor_collects (d : Declaration) (c : Constructor) :
    Collects x.table (x.constructor d c) [] (parameterReferences d.name c.parameters) := by
  have hps := x.parametersAfter_collects d.name [] c.parameters
  rw [constructor]
  refine (Collects.bind hps (fun ps => ?_)).congr (List.append_nil []) (List.append_nil _)
  split
  · exact Collects.pure []
  · split
    · exact Collects.bind (Collects.notify _) (fun _ => Collects.pure _)
    · exact Collects.pure _

lemma propertyValue_collects (d : Declaration) (p : Property) :
    Collects x.table (x.propertyValue d p) [] [] := by
  rw [propertyValue]
  split
  · exact Collects.pure _
  · split
    · exact Collects.pure _
    · exact Collects.bind (Collects.notify _) (fun _ => Collects.pure _)

lemma property_collects (d : Declaration) (p : Property) :
    Collects x.table (x.property d p) [] [⟨p.type, d.name ++ "." ++ p.name⟩] := by
  rw [property]
  exact Collects.bind (Collects.typeOf p.type _)
    (fun _ => Collects.bind (x.propertyValue_collects d p) (fun _ => Collects.pure _))

lemma constant_collects (d : Declaration) (c : Constant) :
    Collects x.table (x.constant d c) [] [⟨c.type, d.name ++ "." ++ c.name⟩] := by
  rw [constant]
  exact Collects.bind (Collects.typeOf c.type _) (fun _ => Collects.pure _)

lemma method_collects (d : Declaration) (m : Method) :
    Collects x.table (x.method d m) [] (methodReferences d m) := by
  have hps := x.parametersAfter_collects (d.name ++ "." ++ m.name) [] m.parameters
  rw [method, methodReferences]
  exact (Collects.bind (Collects.typeOf m.returnType _)
    (fun _ => Collects.bind hps (fun _ => Collects.pure _))).congr (by simp) (by simp)

lemma members_collects (d : Declaration) :
    Collects x.table (x.members d) [] (classReferences d) := by
  have hconstructors := Collects.mapM (l := d.constructors)
    (fun c _ => x.constructor_collects d c)
  have hproperties := Collects.mapM (l := d.properties) (fun p _ => x.property_collects d p)
  have hconstants := Collects.mapM (l := d.constants) (fun c _ => x.constant_collects d c)
  have hmethods := Collects.mapM (l := d.methods.filter isForwarded)
    (fun m _ => x.method_collects d m)
  rw [members, classReferences]
  refine (hconstructors.bind (fun _ => hproperties.bind (fun _ => hconstants.bind (fun _ =>
    hmethods.bind (fun _ => Collects.pure _))))).congr (by simp) ?_
  simp only [List.append_assoc, List.append_nil, List.map_eq_flatMap, funext isForwarded_eq]

lemma enumeration_collects {d : Declaration} (hd : d.isEnum = true) :
    Collects x.table (enumeration d) (annotations d) (references d) := by
  rw [enumeration, annotations, references, if_pos hd, if_pos hd]
  exact Collects.bind (Collects.require _) (fun _ => Collects.pure _)

/-- What the types of a list collect, if each of them collects what is rendered for it. -/
lemma types_collects {ns : List ContractType}
    (h : ∀ t ∈ ns, Collects x.table (x.type excluded true t)
      (renderedAnnotations excluded t) (renderedReferences excluded t)) :
    Collects x.table (x.types excluded ns)
      ((renderOrderAll excluded ns).flatMap (fun u => annotations u.decl))
      ((renderOrderAll excluded ns).flatMap (fun u => references u.decl)) := by
  induction ns with
  | nil =>
    rw [types, renderOrderAll]
    exact Collects.pure []
  | cons t rest ih =>
    have hrest := ih (fun s hs => h s (List.mem_cons_of_mem t hs))
    rw [types, renderOrderAll]
    cases excluded t.name with
    | true =>
      -- an excluded type is passed over with all that is nested in it
      simpa using hrest
    | false =>
      exact ((h t (by simp)).bind (fun first => hrest.bind (fun others =>
        Collects.pure (first :: others)))).congr
        (by simp [renderedAnnotations]) (by simp [renderedReferences])

/-- Drafting a type collects the annotations and the references of what is rendered. -/
lemma type_collects (excluded : String → Bool) (t : ContractType) (isNested : Bool) :
    Collects x.table (x.type excluded isNested t)
      (renderedAnnotations excluded t) (renderedReferences excluded t) := by
  induction t using ContractType.nestedInduction generalizing isNested with
  | mk d ns ih =>
    have hns := x.types_collects (fun t ht => ih t ht true)
    rw [type, renderedAnnotations, renderedReferences, renderOrder]
    cases hd : d.isEnum with
    | true =>
      -- an enumeration ends the descent: neither its members nor its nested types are drafted
      simpa [ContractType.decl] using x.enumeration_collects hd
    | false =>
      have hnames : annotations d = if d.isStaticClass then [] else [exposeType] := by
        simp [annotations, hd]
      have hrefs : references d = classReferences d := by
        simp [references, hd]
      exact ((Collects.require (if d.isStaticClass then [] else [exposeType])).bind (fun _ =>
        (x.members_collects d).bind (fun _ => hns.bind (fun _ => Collects.pure _)))).congr
        (by simp [ContractType.decl, hnames]) (by simp [ContractType.decl, hrefs])

end Dialect

end DataContract.Java
