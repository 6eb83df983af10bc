/-
What depends on the initializers of properties.

Initializers are changed in any number of properties, at any depth of a type.  A
change of an initializer that gives no value to none at all, and any change of
one that is not looked at, leaves the file of the type or its failure as it is.
What is not looked at leaves the notices as they are, too.  A file that is
written comes with one warning for each property in it whose initializer is
looked at and does not end, and no initializer keeps a file from being written.
-/
import DataContract.Proofs.Generator.Batch
import DataContract.Proofs.Java.InitializerWarnings

namespace DataContract.Java

/-! ### Changes of initializers -/

/-- A property is kept, or it gets another initializer that it may get. -/
inductive PropertyChange (may : Property → Option String → Prop) : Property → Property → Prop
  | keep (p : Property) : PropertyChange may p p
  | set {p : Property} {text : Option String} (h : may p text) :
      PropertyChange may p { p with initializer := text }

/-- A member is kept, unless it is a property. -/
inductive MemberChange (may : Property → Option String → Prop) : Member → Member → Prop
  | keep (m : Member) : MemberChange may m m
  | property {p q : Property} (h : PropertyChange may p q) :
      MemberChange may (.property p) (.property q)

/-- A declaration is kept but for its members. -/
structure DeclarationChange (may : Property → Option String → Prop) (d d' : Declaration) :
    Prop where
  name_eq : d'.name = d.name
  kind_eq : d'.kind = d.kind
  base_eq : d'.base = d.base
  isStatic_eq : d'.isStatic = d.isStatic
  documentation_eq : d'.documentation = d.documentation
  sourceFile_eq : d'.sourceFile = d.sourceFile
  members : List.Forall₂ (MemberChange may) d.members d'.members

/-- The properties of a type, and of those nested in it, get initializers that they may get where
they are declared; all else is kept. -/
inductive InitializerChange (may : Declaration → Property → Option String → Prop) :
    ContractType → ContractType → Prop
  | mk {d d' : Declaration} {ns ns' : List ContractType} (hdecl : DeclarationChange (may d) d d')
      (hnested : List.Forall₂ (InitializerChange may) ns ns') :
      InitializerChange may (.mk d ns) (.mk d' ns')

lemma InitializerChange.name_eq {may : Declaration → Property → Option String → Prop}
    {t t' : ContractType} (h : InitializerChange may t t') : t'.name = t.name := by
  cases h with
  | mk hdecl => exact hdecl.name_eq

/-- An initializer that gives no value can be dropped. -/
def MayDrop (p : Property) (text : Option String) : Prop :=
  text = none ∧ ∃ source, p.initializer = some source ∧ IsUnusable source

section Members

variable {may : Property → Option String → Prop}

lemma PropertyChange.head_eq {p q : Property} (h : PropertyChange may p q) :
    p.toMemberHead = q.toMemberHead := by
  cases h <;> rfl

lemma MemberChange.head_eq {m m' : Member} (h : MemberChange may m m') : m.head = m'.head := by
  cases h with
  | keep => rfl
  | property h => exact h.head_eq

/-- The members that are no properties are kept. -/
lemma MemberChange.filterMap_eq {β : Type} {select : Member → Option β}
    (hselect : ∀ p, select (.property p) = none) {ms ms' : List Member}
    (h : List.Forall₂ (MemberChange may) ms ms') : ms'.filterMap select = ms.filterMap select := by
  induction h with
  | nil => rfl
  | cons hm _ ih =>
    cases hm with
    | keep => rw [List.filterMap_cons, List.filterMap_cons, ih]
    | property => rw [List.filterMap_cons, List.filterMap_cons, hselect, hselect, ih]

end Members

namespace DeclarationChange

variable {may : Property → Option String → Prop} {d d' : Declaration}

lemma isEnum_eq (h : DeclarationChange may d d') : d'.isEnum = d.isEnum := by
  rw [Declaration.isEnum, Declaration.isEnum, h.kind_eq, h.base_eq]

lemma properties (h : DeclarationChange may d d') :
    List.Forall₂ (PropertyChange may) d.properties d'.properties := by
  have hmembers := h.members
  rw [Declaration.properties, Declaration.properties]
  generalize d.members = ms at hmembers ⊢
  generalize d'.members = ms' at hmembers ⊢
  induction hmembers with
  | nil => exact .nil
  | @cons m m' _ _ hm _ ih =>
    cases hm with
    | property hp => exact .cons hp ih
    | keep =>
      -- of the members that are kept, only properties are selected
      cases m with
      | property p => exact .cons (.keep p) ih
      | _ => exact ih

lemma isStaticClass_eq (h : DeclarationChange may d d') :
    d'.isStaticClass = d.isStaticClass := by
  have hheads : d.members.map Member.head = d'.members.map Member.head := by
    rw [← List.forall₂_eq_eq_eq, List.forall₂_map_left_iff, List.forall₂_map_right_iff]
    exact h.members.imp (fun m m' hm => hm.head_eq)
  have hall : ∀ ms : List Member,
      ms.all (·.head.isStatic) = (ms.map Member.head).all (·.isStatic) := by
    intro ms
    rw [List.all_map]
    rfl
  rw [Declaration.isStaticClass, Declaration.isStaticClass, hall, hall, hheads,
    h.isStatic_eq, h.kind_eq]

/-- A constructor is matched with the properties by their names, which are kept. -/
lemma fieldNames_eq (h : DeclarationChange may d d') :
    Dialect.fieldNames d' = Dialect.fieldNames d := by
  have hheads : d.properties.map Property.toMemberHead =
      d'.properties.map Property.toMemberHead := by
    rw [← List.forall₂_eq_eq_eq, List.forall₂_map_left_iff, List.forall₂_map_right_iff]
    exact h.properties.imp (fun p q hp => hp.head_eq)
  have hnames : ∀ e : Declaration, Dialect.fieldNames e =
      ((e.properties.map Property.toMemberHead).filter (fun m => !m.isStatic)).map
        (fun m => identifier m.name) := by
    intro e
    rw [Dialect.fieldNames, List.filter_map, List.map_map]
    rfl
  rw [hnames, hnames, hheads]

lemma classHead_eq (h : DeclarationChange may d d') (isNested : Bool) :
    Dialect.classHead isNested d' = Dialect.classHead isNested d := by
  rw [Dialect.classHead, Dialect.classHead, Declaration.properBase?, Declaration.properBase?,
    h.isStaticClass_eq, h.name_eq, h.documentation_eq, h.base_eq]

lemma enumeration_eq (h : DeclarationChange may d d') :
    Dialect.enumeration d' = Dialect.enumeration d := by
  have hvalues : d'.enumValues = d.enumValues := MemberChange.filterMap_eq (fun _ => rfl) h.members
  rw [Dialect.enumeration, Dialect.enumeration, h.name_eq, hvalues, h.documentation_eq]

end DeclarationChange

/-! ### Drafting a changed type -/

namespace Dialect

open Draft (AgreeOn)

variable {x : Dialect} {kind : Notice → Bool} {excluded : String → Bool}

lemma types_agree {ns ns' : List ContractType}
    (h : List.Forall₂ (fun t t' => t'.name = t.name ∧
      AgreeOn kind (x.type excluded true t) (x.type excluded true t')) ns ns') :
    AgreeOn kind (x.types excluded ns) (x.types excluded ns') := by
  induction h with
  | nil => exact AgreeOn.refl _
  | @cons t t' rest rest' ht _ ih =>
    rw [types, types, ht.1]
    cases excluded t.name with
    | true => exact ih
    | false => exact ht.2.bind (fun first => ih.bind (fun others => AgreeOn.refl _))

section Changes

-- the value of a property does not depend on which of its initializers it has
variable {may : Declaration → Property → Option String → Prop}
  (hmay : ∀ d p text, may d p text →
    AgreeOn kind (x.propertyValue d p) (x.propertyValue d { p with initializer := text }))
  {d d' : Declaration}

include hmay

lemma property_agree (h : DeclarationChange (may d) d d') {p q : Property}
    (hpq : PropertyChange (may d) p q) : AgreeOn kind (x.property d p) (x.property d' q) := by
  have hvalue : x.propertyValue d' q = x.propertyValue d q := by
    rw [propertyValue, propertyValue, h.isStaticClass_eq, h.name_eq]
  rw [property, property, hvalue, h.name_eq]
  cases hpq with
  | keep => exact AgreeOn.refl _
  | set hset =>
    exact (AgreeOn.refl _).bind (fun type =>
      (hmay d p _ hset).bind (fun value => AgreeOn.refl _))

lemma members_agree (h : DeclarationChange (may d) d d') :
    AgreeOn kind (x.members d) (x.members d') := by
  have hconstructors : d'.constructors = d.constructors :=
    MemberChange.filterMap_eq (fun _ => rfl) h.members
  have hconstants : d'.constants = d.constants :=
    MemberChange.filterMap_eq (fun _ => rfl) h.members
  have hmethods : d'.methods = d.methods := MemberChange.filterMap_eq (fun _ => rfl) h.members
  have hunmatched : unmatched d' = unmatched d := by
    funext ps
    rw [unmatched, unmatched, h.fieldNames_eq]
  have hconstructor : x.constructor d' = x.constructor d := by
    funext c
    rw [constructor, constructor, hunmatched, h.name_eq]
  have hconstant : x.constant d' = x.constant d := by
    funext c
    rw [constant, constant, h.name_eq]
  have hmethod : x.method d' = x.method d := by
    funext m
    rw [method, method, h.name_eq]
  rw [members, members, hconstructors, hconstants, hmethods, hconstructor, hconstant, hmethod]
  refine (AgreeOn.refl _).bind (fun constructors => ?_)
  refine (AgreeOn.mapM ?_).bind (fun properties => AgreeOn.refl _)
  exact h.properties.imp (fun p q hpq => property_agree hmay h hpq)

/-- Drafting a type and drafting it after a change agree. -/
lemma type_agree {t t' : ContractType} (h : InitializerChange may t t') (isNested : Bool) :
    AgreeOn kind (x.type excluded isNested t) (x.type excluded isNested t') := by
  induction t using ContractType.nestedInduction generalizing t' isNested with
  | mk d ns ih =>
    cases h with
    | @mk _ d' _ ns' hdecl hnested =>
      have htypes : AgreeOn kind (x.types excluded ns) (x.types excluded ns') := by
        refine types_agree
          (((List.forall₂_and_left _ _).mpr ⟨fun _ ht => ht, hnested⟩).imp ?_)
        rintro t t' ⟨ht, hchange⟩
        exact ⟨hchange.name_eq, ih t ht hchange true⟩
      rw [type, type, hdecl.isEnum_eq]
      cases d.isEnum with
      | true =>
        -- an enumeration shows its values only
        rw [if_pos rfl, if_pos rfl, hdecl.enumeration_eq]
        exact AgreeOn.refl _
      | false =>
        rw [if_neg Bool.false_ne_true, if_neg Bool.false_ne_true, hdecl.isStaticClass_eq,
          hdecl.classHead_eq]
        refine (AgreeOn.refl _).bind (fun _ => ?_)
        refine (members_agree hmay hdecl).bind (fun members => ?_)
        exact htypes.bind (fun types => AgreeOn.refl _)

end Changes

end Dialect

/-! ### Properties whose value is the same -/

/-- No warning is a notice of another kind. -/
lemma filter_initializerWarning? (d : Declaration) (p : Property) :
    (initializerWarning? d p).toList.filter (fun n => !isInitializerWarning n) = [] := by
  rw [List.filter_eq_nil_iff]
  intro n hn
  simp [isInitializerWarning_of_mem hn]

namespace Dialect

open Draft (AgreeOn)

variable (x : Dialect) {d : Declaration} {p : Property} {text : Option String}

lemma propertyValue_agree_of_kept {kind : Notice → Bool} (h : IsKeptByCompanion d p) :
    AgreeOn kind (x.propertyValue d p) (x.propertyValue d { p with initializer := text }) := by
  have hset : IsKeptByCompanion d { p with initializer := text } := h
  rw [x.propertyValue_of_kept h, x.propertyValue_of_kept hset]
  exact AgreeOn.refl _

/-- Where an initializer gives no value, only the warning shows that it is there. -/
lemma propertyValue_agree_of_unusable (h : MayDrop p text) :
    AgreeOn (fun n => !isInitializerWarning n) (x.propertyValue d p)
      (x.propertyValue d { p with initializer := text }) := by
  obtain ⟨rfl, source, hsource, hunusable⟩ := h
  by_cases hkept : IsKeptByCompanion d p
  · exact x.propertyValue_agree_of_kept hkept
  · -- both properties have no value; what is left to compare is the warning
    have hbefore : (x.propertyValue d p).outcome = .ok none := by
      refine x.propertyValue_outcome_of_unusable hkept (fun text htext => ?_)
      cases hsource.symm.trans htext
      exact hunusable
    have hafter : (x.propertyValue d { p with initializer := none }).outcome = .ok none :=
      x.propertyValue_outcome_of_unusable hkept (fun text htext => by cases htext)
    obtain ⟨value, hvalue⟩ := x.exists_propertyValue d p
    obtain ⟨value', hvalue'⟩ := x.exists_propertyValue d { p with initializer := none }
    refine ⟨hbefore.trans hafter.symm, ?_, ?_⟩
    · rw [hvalue, hvalue']
    · rw [hvalue, hvalue', filter_initializerWarning?, filter_initializerWarning?]

end Dialect

namespace Writer

open Draft (AgreeOn)

variable {w : Writer} {config : Config} {excluded : String → Bool} {t t' : ContractType}

/-- A change that the values of properties do not depend on leaves the file as it is. -/
lemma emit_agree {kind : Notice → Bool} {may : Declaration → Property → Option String → Prop}
    (hmay : ∀ d p text, may d p text → AgreeOn kind (w.toDialect.propertyValue d p)
      (w.toDialect.propertyValue d { p with initializer := text }))
    (h : InitializerChange may t t') :
    (w.emit config excluded t').outcome = (w.emit config excluded t).outcome ∧
      w.obstacle? config excluded t' = w.obstacle? config excluded t ∧
      (w.emit config excluded t').notices.filter kind =
        (w.emit config excluded t).notices.filter kind := by
  have hdraft : AgreeOn kind (w.toDialect.type excluded false t)
      (w.toDialect.type excluded false t') := Dialect.type_agree hmay h false
  have hsource : sourceOf t'.decl = sourceOf t.decl := by
    cases h with
    | @mk d d' _ _ hdecl =>
      show sourceOf d' = sourceOf d
      rw [sourceOf, sourceOf, hdecl.name_eq, hdecl.sourceFile_eq]
  have hobstacle : w.obstacle? config excluded t' = w.obstacle? config excluded t := by
    rw [obstacle?, obstacle?, hdraft.outcome, hsource]
  rw [hobstacle, emit, emit, h.name_eq, hsource]
  cases isRooted (sourceOf t.decl) with
  | true => exact ⟨rfl, rfl, rfl⟩
  | false =>
    have hafter := hdraft.outcome
    cases hbefore : (w.toDialect.type excluded false t).outcome with
    | error e =>
      rw [hbefore] at hafter
      simp [hbefore, ← hafter, hdraft.notices]
    | ok type =>
      rw [hbefore] at hafter
      simp [hbefore, ← hafter, hdraft.notices, hdraft.imports]

lemma Emission.eq_of_filter {ε : Type} {e e' : Emission ε} (houtcome : e.outcome = e'.outcome)
    (hnotices : e.notices.filter (fun _ => true) = e'.notices.filter (fun _ => true)) : e = e' := by
  obtain ⟨outcome, notices⟩ := e
  obtain ⟨outcome', notices'⟩ := e'
  rw [List.filter_true, List.filter_true] at hnotices
  cases houtcome
  cases hnotices
  rfl

/-- A file comes with the warnings of the properties in it. -/
lemma emit_warnings {file : GeneratedFile} (h : (w.emit config excluded t).outcome = .ok file) :
    (w.emit config excluded t).notices.filter isInitializerWarning =
      warningsOf (renderedProperties excluded t) := by
  obtain ⟨hsource, type, htype, -⟩ := emit_eq_ok_iff.mp h
  have hwarnings := w.toDialect.type_notifies excluded t false type htype
  have hrendered : ∀ path imports, isInitializerWarning (renderedNotice path imports) = false :=
    fun _ _ => rfl
  rw [emit, hsource]
  simp [htype, hwarnings, hrendered]

/-- **Initializers that give no value are as good as none, and those that are not looked at have no
part in anything.**  The file of a type or its failure, and what keeps it from being written, stay
as they are if initializers that give no value are dropped and those of properties that the
companion keeps are changed in any way, in any properties at any depth; among the notices only
warnings of initializers can differ.  If only properties that the companion keeps are changed,
nothing differs.  A file comes with one warning for each property in it whose initializer is looked
at and does not end.  No initializer is a cause of failure: a type fails for its source or for a
reference without a Java type, and a batch ends early for the disk or for an obstacle. -/
theorem emit_without_unusable_initializers (w : Writer) (config : Config)
    (excluded : String → Bool) (t : ContractType) :
    (∀ t', InitializerChange (fun d p text => MayDrop p text ∨ IsKeptByCompanion d p) t t' →
      (w.emit config excluded t').outcome = (w.emit config excluded t).outcome ∧
      w.obstacle? config excluded t' = w.obstacle? config excluded t ∧
      (w.emit config excluded t').notices.filter (fun n => !isInitializerWarning n) =
        (w.emit config excluded t).notices.filter (fun n => !isInitializerWarning n)) ∧
    (∀ t', InitializerChange (fun d p _ => IsKeptByCompanion d p) t t' →
      w.emit config excluded t' = w.emit config excluded t) ∧
    (∀ file, (w.emit config excluded t).outcome = .ok file →
      (w.emit config excluded t).notices.filter isInitializerWarning =
        warningsOf (renderedProperties excluded t)) ∧
    (∀ e, (w.emit config excluded t).outcome = .error e ↔
      isRooted (sourceOf t.decl) = true ∧ e = .rootedSource t.name (sourceOf t.decl) ∨
      isRooted (sourceOf t.decl) = false ∧ ∃ cause,
        (renderedReferences excluded t).findSome? w.table.unsupported? = some cause ∧
          e = .unsupported cause) ∧
    ∀ (g : Generator) (root : Option Path) (disk : Disk),
      (∀ c, (g.generateWithin root disk).outcome = .error c →
        (∃ e, c = .disk e) ∨ ∃ u ∈ g.contractTypes, g.obstacle? u = some c) ∧
      ∀ b, (g.generateWithin root disk).outcome = .ok b → ∀ f ∈ b.failures,
        ∃ u ∈ g.contractTypes, f.typeName = u.name ∧ (g.emit u).outcome = .error f.error := by
  refine ⟨fun t' h => ?_, fun t' h => ?_, fun file => emit_warnings, fun e => ?_,
    fun g root disk => ⟨fun c => Generator.cause_of_generateWithin, fun b hb f hf => ?_⟩⟩
  · refine emit_agree (fun d p text hmay => ?_) h
    rcases hmay with hunusable | hkept
    · exact w.toDialect.propertyValue_agree_of_unusable hunusable
    · exact w.toDialect.propertyValue_agree_of_kept hkept
  · have hagree : ∀ d p (text : Option String), IsKeptByCompanion d p →
        AgreeOn (fun _ => true) (w.toDialect.propertyValue d p)
          (w.toDialect.propertyValue d { p with initializer := text }) :=
      fun _ _ _ hkept => w.toDialect.propertyValue_agree_of_kept hkept
    exact Emission.eq_of_filter (emit_agree hagree h).1 (emit_agree hagree h).2.2
  · rw [emit_eq_error_iff]
    simp only [(w.toDialect.type_collects excluded t false).error_iff]
  · rw [Generator.eq_batchBelow_of_generate (Generator.generate_of_generateWithin hb)] at hf
    exact Generator.mem_failuresOf.mp hf

/-- A class of properties, one of them static, with a class of a property in it. -/
def initializerExample (host mode label : Option String) : ContractType :=
  .mk ⟨"Port", .plainClass, none, false, none, "Port.cs", [
      .property ⟨⟨"Host", .publicAccess, false, none⟩, TypeRef.parse "string", host⟩,
      .property ⟨⟨"Mode", .publicAccess, true, none⟩, TypeRef.parse "string", mode⟩]⟩
    [.mk ⟨"Kind", .plainClass, none, false, none, "Port.cs", [
      .property ⟨⟨"Label", .publicAccess, false, none⟩, TypeRef.parse "string", label⟩]⟩ []]

/-- The initializer of the host does not end, that of the label is null, and that of the mode is
kept by the companion. -/
def unusableExample : ContractType :=
  initializerExample (some "{ get; } = 5") (some "= 5;") (some "= null! ;")

theorem emit_unusableExample :
    InitializerChange (fun d p text => MayDrop p text ∨ IsKeptByCompanion d p) unusableExample
        (initializerExample none (some "=") none) ∧
      ∃ file,
        ((standard "Tunnels" .default).emit .default (fun _ => false) unusableExample).outcome =
          .ok file ∧
        ((standard "Tunnels" .default).emit .default (fun _ => false)
          (initializerExample none (some "=") none)).outcome = .ok file ∧
        ((standard "Tunnels" .default).emit .default (fun _ => false)
          unusableExample).notices.filter isInitializerWarning =
            [Dialect.initializerNotice "Port" "Host" ⟨"{ get; } = 5"⟩] := by
  have hopen : IsUnusable "{ get; } = 5" :=
    .inl ⟨" 5".toList, ⟨"{ get; } ".toList, rfl, by decide, by decide⟩, by decide⟩
  have hnull : IsUnusable "= null! ;" :=
    .inr ⟨" null! ".toList, ⟨[], ⟨[], rfl, by decide, by decide⟩, by decide⟩,
      [' '], "null!".toList, [' '], rfl, rfl, rfl, .inr (.inr rfl)⟩
  have hchange : InitializerChange (fun d p text => MayDrop p text ∨ IsKeptByCompanion d p)
      unusableExample (initializerExample none (some "=") none) :=
    .mk ⟨rfl, rfl, rfl, rfl, rfl, rfl,
        .cons (.property (.set (.inl ⟨rfl, _, rfl, hopen⟩)))
          (.cons (.property (.set (.inr ⟨rfl, rfl⟩))) .nil)⟩
      (.cons (.mk ⟨rfl, rfl, rfl, rfl, rfl, rfl,
        .cons (.property (.set (.inl ⟨rfl, _, rfl, hnull⟩))) .nil⟩ .nil) .nil)
  have hok : ((standard "Tunnels" .default).emit .default (fun _ => false)
      unusableExample).outcome.isOk = true := by decide +kernel
  have hwarnings : warningsOf (renderedProperties (fun _ => false) unusableExample) =
      [Dialect.initializerNotice "Port" "Host" ⟨"{ get; } = 5"⟩] := by decide +kernel
  obtain ⟨file, hfile⟩ := Succeeds.of_isOk hok
  obtain ⟨hsame, -, hwarned, -⟩ := emit_without_unusable_initializers
    (standard "Tunnels" .default) .default (fun _ => false) unusableExample
  exact ⟨hchange, file, hfile, (hsame _ hchange).1.trans hfile,
    (hwarned file hfile).trans hwarnings⟩

end Writer

end DataContract.Java
