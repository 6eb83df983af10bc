/-
The file of a contract type, written as that of a loose type.

The writer of loose types writes a contract type as the writer of contract types
does: it drafts the same declarations, with the same imports and notices, and it
fails for the same causes.  So a type object that the schema admits has one file,
whether it was checked or not.
-/
import DataContract.Java.Loose
import DataContract.Proofs.Java.Unsupported
import DataContract.Proofs.Model.Loosening
import DataContract.Proofs.Model.Nesting

namespace DataContract.Java

/-! ### Drafts with another cause -/

namespace Draft

variable {ε ε' α β : Type}

lemma mapError_bind (g : ε → ε') (x : Draft ε α) (f : α → Draft ε β) :
    (x >>= f).mapError g = x.mapError g >>= fun a => (f a).mapError g := by
  cases hx : x.outcome with
  | ok a =>
    have hg : (x.mapError g).outcome = .ok a := by rw [mapError, hx]; rfl
    rw [bind_of_ok hx, bind_of_ok hg]
    rfl
  | error e =>
    have hg : (x.mapError g).outcome = .error (g e) := by rw [mapError, hx]; rfl
    rw [bind_of_error hx, bind_of_error hg]
    rfl

lemma mapError_pure (g : ε → ε') (a : α) : (pure a : Draft ε α).mapError g = pure a := rfl

lemma mapError_require (g : ε → ε') (names : List String) :
    (require names).mapError g = require names := rfl

lemma mapError_mapM (g : ε → ε') (f : α → Draft ε β) (l : List α) :
    (l.mapM f).mapError g = l.mapM (fun a => (f a).mapError g) := by
  induction l with
  | nil => rfl
  | cons a rest ih =>
    rw [List.mapM_cons, List.mapM_cons, mapError_bind]
    refine bind_congr (fun b => ?_)
    rw [mapError_bind, ih]
    rfl

end Draft

/-! ### Texts as values -/

lemma looseIdentifier_str (s : String) : looseIdentifier (.str s) = .ok (.str (identifier s)) := by
  by_cases h : s = ""
  · subst h
    rfl
  · simp [looseIdentifier, Value.isPresent, h]

lemma keyIdentifier_str (s : String) : keyIdentifier (.str s) = .ok (.str (identifier s)) := by
  rw [keyIdentifier, looseIdentifier_str]
  rfl

lemma looseDocumentation_ofText? (s? : Option String) :
    looseDocumentation (.ofText? s?) = .ok s? := by
  cases s? <;> rfl

lemma sameKey_str (s t : String) : (Value.str s).sameKey (.str t) = (s == t) := rfl

lemma text_str (s : String) : (Value.str s).text = s := rfl

lemma mapM_textOf_str (names : List String) : (names.map Value.str).mapM textOf = .ok names := by
  have htexts : names.mapM (textOf ∘ Value.str) = .ok (names.map id) :=
    mapM_of_forall_ok (fun name _ => rfl)
  rw [List.mapM_map, htexts, List.map_id]

namespace LooseDraft

lemma orCrash_ok {α : Type} (a : α) : orCrash (.ok a) = pure a := rfl

end LooseDraft

namespace Dialect

open LooseDraft (orCrash orCrash_ok)

variable (x : Dialect)

/-! ### Parameters -/

/-- Parameters by their names, as values. -/
def named (ps : List FormalParameter) : List (Value × String) :=
  ps.map (fun p => (.str p.name, p.type))

lemma putKey_named (p : FormalParameter) (ps : List FormalParameter) :
    putKey (.str p.name) p.type (named ps) = named (setParameter p ps) := by
  induction ps with
  | nil => rfl
  | cons q rest ih =>
    rw [named, List.map_cons, putKey, sameKey_str, setParameter]
    split
    · rename_i hname
      rw [eq_of_beq hname]
      rfl
    · rw [← named, ih]
      rfl

lemma formalParameters_named (ps : List FormalParameter) : formalParameters (named ps) = ps := by
  rw [formalParameters, named, List.map_map]
  exact List.map_id ps

lemma looseParametersAfter_loosen (owner : String) (acc : List FormalParameter)
    (ps : List Parameter) :
    x.looseParametersAfter owner (named acc) (ps.map Parameter.loosen) =
      (x.parametersAfter owner acc ps).mapError .reported >>= fun ps => pure (named ps) := by
  induction ps generalizing acc with
  | nil => rfl
  | cons p rest ih =>
    rw [List.map_cons, looseParametersAfter, parametersAfter, Draft.mapError_bind, bind_assoc]
    simp only [Parameter.loosen, looseIdentifier_str, orCrash_ok, pure_bind, text_str]
    refine bind_congr (fun type => ?_)
    rw [← ih]
    have hput := putKey_named ⟨identifier p.name, type⟩ acc
    simp only at hput
    rw [← hput]
    rfl

lemma looseParameters_loosen (owner : String) (ps : List Parameter) :
    x.looseParameters owner (ps.map Parameter.loosen) =
      (x.parameters owner ps).mapError .reported >>= fun ps => pure (named ps) :=
  x.looseParametersAfter_loosen owner [] ps

/-! ### Members -/

/-- Drafts one after another agree if each of them does. -/
lemma mapM_loosen {α β γ : Type} {f : α → Draft UnsupportedType β} {g : γ → LooseDraft β}
    {loosen : α → γ} (h : ∀ a, g (loosen a) = (f a).mapError .reported) (l : List α) :
    (l.map loosen).mapM g = (l.mapM f).mapError .reported := by
  rw [List.mapM_map, Draft.mapError_mapM]
  exact congrArg (fun k => l.mapM k) (funext h)

/-- The documentation and the name of a member are taken from its head, without a crash. -/
lemma bind_head_loosen {β : Type} {h : LooseHead} {m : MemberHead} (hm : h = m.loosen)
    (f : Option String → Value → LooseDraft β) :
    (do
      let documentation ← orCrash (looseDocumentation h.documentation)
      let name ← orCrash (looseIdentifier h.name)
      f documentation name) = f m.documentation (.str (identifier m.name)) := by
  rw [hm, MemberHead.loosen, looseDocumentation_ofText?, looseIdentifier_str]
  rfl

variable (d : Declaration)

lemma filterMap_loosen {α β : Type} {select : Member → Option α}
    {selectLoose : LooseMember → Option β} {f : α → β}
    (h : ∀ m, selectLoose m.loosen = (select m).map f) :
    d.loosen.members.filterMap selectLoose = (d.members.filterMap select).map f := by
  rw [Declaration.loosen, List.filterMap_map, List.map_filterMap]
  exact List.filterMap_congr (fun m _ => h m)

lemma properties_loosen : d.loosen.properties = d.properties.map Property.loosen :=
  filterMap_loosen d (fun m => by cases m <;> rfl)

lemma constants_loosen : d.loosen.constants = d.constants.map Constant.loosen :=
  filterMap_loosen d (fun m => by cases m <;> rfl)

lemma enumValues_loosen :
    d.loosen.enumValues = d.enumValues.map (fun v => v.toMemberHead.loosen) :=
  filterMap_loosen d (fun m => by cases m <;> rfl)

lemma methods_loosen : d.loosen.methods = d.methods.map Method.loosen :=
  filterMap_loosen d (fun m => by cases m <;> rfl)

lemma constructors_loosen : d.loosen.constructors = d.constructors.map Constructor.loosen :=
  filterMap_loosen d (fun m => by cases m <;> rfl)

lemma isStaticClass_loosen : d.loosen.isStaticClass = d.isStaticClass := by
  rw [LooseDeclaration.isStaticClass, Declaration.isStaticClass, Declaration.loosen,
    List.all_map]
  refine congrArg _ (List.all_congr rfl (fun m => ?_))
  cases m <;> rfl

lemma any_isStr_str (words : List String) (s : String) :
    words.any (fun b => (Value.str s).isStr b) = words.contains s := by
  rw [List.contains_eq_any_beq]
  rfl

lemma isEnum_loosen : d.loosen.isEnum = .ok d.isEnum := by
  rw [LooseDeclaration.isEnum, Declaration.isEnum, Declaration.loosen]
  cases d.kind == .enum with
  | true => rfl
  | false =>
    cases d.base with
    | none => rfl
    | some base => exact congrArg Except.ok (any_isStr_str _ base)

lemma properBase?_loosen : d.loosen.properBase? = d.properBase? := by
  rw [LooseDeclaration.properBase?, Declaration.properBase?, Declaration.loosen]
  cases d.base with
  | none => rfl
  | some base =>
    rw [Value.ofText?, any_isStr_str, Option.filter_some]
    by_cases hbase : base = "" <;> simp [Value.isPresent, hbase, text_str]

lemma looseFieldNames_loosen : looseFieldNames d.loosen = .ok ((fieldNames d).map .str) := by
  rw [looseFieldNames, properties_loosen, List.filter_map, List.mapM_map, fieldNames, List.map_map]
  exact mapM_of_forall_ok (fun p _ => keyIdentifier_str p.name)

/-- The parameters without a field are the same by their names as values. -/
lemma filter_named (ps : List FormalParameter) :
    ((named ps).map (·.1)).filter
        (fun name => !((fieldNames d).map Value.str).any (·.sameKey name)) =
      (unmatched d ps).map .str := by
  have hnames : (named ps).map (·.1) = (ps.map (·.name)).map Value.str := by
    rw [named, List.map_map, List.map_map]
    rfl
  rw [hnames, List.filter_map, unmatched]
  refine congrArg _ (List.filter_congr (fun name _ => ?_))
  rw [Function.comp_apply, List.any_map, List.contains_eq_any_beq]
  refine congrArg _ (List.any_congr rfl (fun field => ?_))
  exact BEq.comm

lemma looseConstructor_loosen (c : Constructor) :
    x.looseConstructor d.loosen ((fieldNames d).map .str) c.loosen =
      (x.constructor d c).mapError .reported := by
  have hdocumentation : looseDocumentation c.loosen.documentation = .ok c.documentation :=
    looseDocumentation_ofText? _
  have hparameters : c.loosen.parameters = c.parameters.map Parameter.loosen := rfl
  rw [looseConstructor, hparameters, looseParameters_loosen, bind_assoc, constructor,
    Draft.mapError_bind]
  refine bind_congr (fun ps => ?_)
  have hempty : (named ps).isEmpty = ps.isEmpty := List.isEmpty_map
  have hunmatched : ((unmatched d ps).map Value.str).isEmpty = (unmatched d ps).isEmpty :=
    List.isEmpty_map
  rw [pure_bind, filter_named, hempty]
  dsimp only
  rw [hunmatched, mapM_textOf_str, hdocumentation, formalParameters_named]
  cases ps.isEmpty <;> cases (unmatched d ps).isEmpty <;> rfl

lemma loosePropertyValue_loosen (p : Property) :
    x.loosePropertyValue d.loosen p.loosen (.str (identifier p.name)) =
      (x.propertyValue d p).mapError .reported := by
  rw [loosePropertyValue, propertyValue, isStaticClass_loosen]
  change (if (p.isStatic && !d.isStaticClass) = true then _ else _) = _
  split
  · rfl
  · rw [Property.loosen]
    cases p.initializer with
    | none => rfl
    | some source =>
      dsimp only [Value.ofText?]
      rw [Option.mapM_some]
      cases extract source <;> rfl

lemma looseProperty_loosen (p : Property) :
    x.looseProperty d.loosen p.loosen = (x.property d p).mapError .reported := by
  have hhead : p.loosen.toLooseHead = p.toMemberHead.loosen := rfl
  rw [looseProperty, bind_head_loosen hhead, property, Draft.mapError_bind]
  refine bind_congr (fun type => ?_)
  rw [loosePropertyValue_loosen, Draft.mapError_bind]
  rfl

lemma looseConstant_loosen (c : Constant) :
    x.looseConstant d.loosen c.loosen = (x.constant d c).mapError .reported := by
  have hhead : c.loosen.toLooseHead = c.toMemberHead.loosen := rfl
  rw [looseConstant, bind_head_loosen hhead, constant, Draft.mapError_bind]
  rfl

lemma looseMethod_loosen (m : Method) :
    x.looseMethod d.loosen m.loosen = (x.method d m).mapError .reported := by
  have hhead : m.loosen.toLooseHead = m.toMemberHead.loosen := rfl
  have hparameters : m.loosen.parameters = m.parameters.map Parameter.loosen := rfl
  rw [looseMethod, bind_head_loosen hhead, method, Draft.mapError_bind]
  refine bind_congr (fun returnType => ?_)
  rw [hparameters, looseParameters_loosen, bind_assoc, Draft.mapError_bind]
  refine bind_congr (fun ps => ?_)
  have harguments : (named ps).mapM (fun p => textOf p.1) = .ok (ps.map (·.name)) := by
    rw [named, List.mapM_map]
    exact mapM_of_forall_ok (fun p _ => rfl)
  rw [pure_bind, harguments, formalParameters_named]
  rfl

lemma looseMembers_loosen : x.looseMembers d.loosen = (x.members d).mapError .reported := by
  have hmethods : d.loosen.methods.filter isLooselyForwarded =
      (d.methods.filter isForwarded).map Method.loosen := by
    rw [methods_loosen, List.filter_map]
    rfl
  rw [looseMembers, looseFieldNames_loosen, orCrash_ok, pure_bind, constructors_loosen,
    mapM_loosen (x.looseConstructor_loosen d), properties_loosen,
    mapM_loosen (x.looseProperty_loosen d), constants_loosen,
    mapM_loosen (x.looseConstant_loosen d), hmethods, mapM_loosen (x.looseMethod_loosen d), members]
  simp only [Draft.mapError_bind, Draft.mapError_pure]

/-! ### Types -/

lemma looseEnumeration_loosen : looseEnumeration d.loosen = (enumeration d).mapError .reported := by
  have hdocumentation : looseDocumentation d.loosen.documentation = .ok d.documentation :=
    looseDocumentation_ofText? _
  have hconstant : ∀ v : EnumValue, looseEnumConstant v.toMemberHead.loosen =
      .ok ⟨v.documentation, v.name, identifier v.name⟩ := by
    intro v
    rw [looseEnumConstant, MemberHead.loosen, looseDocumentation_ofText?, looseIdentifier_str]
    rfl
  have hconstants : d.loosen.enumValues.mapM looseEnumConstant =
      .ok (d.enumValues.map (fun v => ⟨v.documentation, v.name, identifier v.name⟩)) := by
    rw [enumValues_loosen, List.mapM_map]
    exact mapM_of_forall_ok (fun v _ => hconstant v)
  rw [looseEnumeration, hdocumentation, hconstants, enumeration, Draft.mapError_bind]
  rfl

variable (excluded : Value → Bool)

lemma looseTypes_loosen {ts : List ContractType}
    (h : ∀ t ∈ ts, x.looseType excluded true t.loosen =
      (x.type (fun name => excluded (.str name)) true t).mapError .reported) :
    x.looseTypes excluded (ContractType.loosenAll ts) =
      (x.types (fun name => excluded (.str name)) ts).mapError .reported := by
  induction ts with
  | nil => rfl
  | cons t rest ih =>
    rw [List.forall_mem_cons] at h
    have hname : t.loosen.decl.name = .str t.name := by
      cases t
      rfl
    rw [ContractType.loosenAll, looseTypes, types, hname, ih h.2, h.1]
    cases excluded (.str t.name) with
    | true => rfl
    | false =>
      simp only [Bool.false_eq_true, if_false, Draft.mapError_bind, Draft.mapError_pure]
      rfl

/-- A contract type is drafted in the same way as a loose type. -/
lemma looseType_loosen (t : ContractType) (isNested : Bool) :
    x.looseType excluded isNested t.loosen =
      (x.type (fun name => excluded (.str name)) isNested t).mapError .reported := by
  induction t using ContractType.nestedInduction generalizing isNested with
  | mk d ns ih =>
    have hdocumentation : looseDocumentation d.loosen.documentation = .ok d.documentation :=
      looseDocumentation_ofText? _
    have hns := x.looseTypes_loosen excluded (fun t ht => ih t ht true)
    rw [ContractType.loosen, looseType, isEnum_loosen, orCrash_ok, pure_bind, type,
      looseEnumeration_loosen, looseMembers_loosen, hns, isStaticClass_loosen,
      properBase?_loosen, hdocumentation]
    cases d.isEnum with
    | true => rfl
    | false =>
      simp only [Bool.false_eq_true, if_false, Draft.mapError_bind, Draft.mapError_pure,
        Draft.mapError_require, orCrash_ok, pure_bind]
      rfl

end Dialect

/-! ### Files -/

namespace Writer

variable (w : Writer) (config : Config) (excluded : Value → Bool)

lemma looseSourceOf_loosen (d : Declaration) : looseSourceOf d.loosen = .ok (sourceOf d) := by
  rw [looseSourceOf, sourceOf, Declaration.loosen]
  by_cases hsource : d.sourceFile = ""
  · simp [hsource, Value.isPresent, text_str]
  · simp [hsource, Value.isPresent, textOf]

lemma looseImportedNames_str (name : String) (collected : List String) :
    w.looseImportedNames (.str name) collected = w.importedNames name collected := by
  rw [looseImportedNames, importedNames]
  refine List.filter_congr (fun n _ => ?_)
  rw [Value.isStr, text_str, BEq.comm]
  rfl

/-- A contract type has the same file as a loose type. -/
lemma emitLoose_loosen (t : ContractType) :
    w.emitLoose config excluded t.loosen =
      w.emitWithin config (fun name => excluded (.str name)) t := by
  have hdecl : t.loosen.decl = t.decl.loosen := by
    cases t
    rfl
  have hname : t.decl.loosen.name = .str t.name := by
    cases t
    rfl
  have htype := w.toDialect.looseType_loosen excluded t false
  rw [emitLoose, emitWithin, obstacle?, emit, hdecl, looseSourceOf_loosen, htype, hname, text_str]
  dsimp only
  -- the obstacles and the draft decide the same way on both sides
  cases hasLicenseText config with
  | false => rfl
  | true =>
    cases isRooted (sourceOf t.decl) with
    | true => rfl
    | false =>
      generalize w.toDialect.type (fun name => excluded (.str name)) false t = draft
      obtain ⟨outcome, imports, notices⟩ := draft
      cases outcome with
      | error e => rfl
      | ok type =>
        simp only [Draft.mapError, Except.mapError, looseImportedNames_str]
        cases isTooDeep type <;> rfl

/-- **A type object that the schema admits has one file.**  It is read as a contract type, and what
is read without the schema is that type too; both have the same file, and it is the file of a type
of a model unless there is an obstacle. -/
theorem emitRead_agrees_with_emit {v : Value} {t : ContractType}
    (hv : Schema.contractType.Admits v) (ht : readType "" (TypeObject.ofValue v) = .ok t) :
    ReadType.ofValue v = .ok (.contract t) ∧
      LooseType.ofValue (.str "") v = .ok t.loosen ∧
      w.emitRead config excluded (.loose t.loosen) = w.emitRead config excluded (.contract t) ∧
      (w.obstacle? config (fun name => excluded (.str name)) t = none →
        w.emitRead config excluded (.contract t) =
          ⟨(w.emit config (fun name => excluded (.str name)) t).outcome.mapError .reported,
            (w.emit config (fun name => excluded (.str name)) t).notices⟩) := by
  refine ⟨?_, ?_, w.emitLoose_loosen config excluded t, emitWithin_of_no_obstacle⟩
  · have hnone : (Schema.issues .contractType [] v).isEmpty = true := List.isEmpty_iff.mpr hv
    rw [ReadType.ofValue, if_pos hnone, ht]
    rfl
  · rw [LooseType.ofValue_eq_map_loosen (Schema.isType_of_admits.1 hv), ht]
    rfl

end Writer

end DataContract.Java
