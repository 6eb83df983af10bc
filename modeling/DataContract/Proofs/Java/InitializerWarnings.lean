/-
The warnings of initializers that do not end.

A property whose initializer is looked at and does not end is written without it,
and this is warned of.  A file that is written comes with one such warning for
each such property in it, in the order in which the properties are rendered, and
none of the other notices is a warning of this kind.
-/
import DataContract.Proofs.Java.InitializerTexts
import DataContract.Proofs.Java.Notices
import DataContract.Proofs.Java.Rendering

namespace DataContract.Java

/-! ### The warnings -/

/-- A warning that a property is written without its initializer. -/
def isInitializerWarning (n : Notice) : Bool :=
  n.level == .warning && "; emitting without initializer".toList.isSuffixOf n.message.toList

/-- The properties of a type that are written, each with what declares it; an enumeration has
none. -/
def writtenProperties (d : Declaration) : List (Declaration × Property) :=
  if d.isEnum then [] else d.properties.map (fun p => (d, p))

/-- The properties that a file renders, in order. -/
def renderedProperties (excluded : String → Bool) (t : ContractType) :
    List (Declaration × Property) :=
  (renderOrder excluded t).flatMap (fun u => writtenProperties u.decl)

/-- The warnings of properties, one for each that has one. -/
def warningsOf (properties : List (Declaration × Property)) : List Notice :=
  properties.filterMap (fun e => initializerWarning? e.1 e.2)

lemma isInitializerWarning_of_mem {d : Declaration} {p : Property} {n : Notice}
    (h : n ∈ (initializerWarning? d p).toList) : isInitializerWarning n = true := by
  rw [Option.mem_toList, initializerWarning?, Option.bind_eq_some_iff] at h
  obtain ⟨text, -, h⟩ := h
  split at h
  · cases h
    rw [isInitializerWarning, Bool.and_eq_true, List.isSuffixOf_iff_suffix,
      Dialect.initializerNotice, String.toList_append]
    exact ⟨rfl, List.suffix_append _ _⟩
  · cases h

lemma isInitializerWarning_unmatchedNotice (type : String) (names : List String) :
    isInitializerWarning (Dialect.unmatchedNotice type names) = false := by
  rw [Bool.eq_false_iff]
  intro h
  rw [isInitializerWarning, Bool.and_eq_true, List.isSuffixOf_iff_suffix,
    Dialect.unmatchedNotice, String.toList_append] at h
  -- two texts with which a message ends would have to agree in their last letters
  have hsuffix := List.suffix_of_suffix_length_le (List.suffix_append _ _) h.2 (by decide)
  exact absurd hsuffix (by decide)

/-! ### Drafts and their warnings -/

namespace Dialect

open Draft (Notifies)

variable (x : Dialect)

lemma parametersAfter_notifies {kind : Notice → Bool} (owner : String)
    (acc : List FormalParameter) (ps : List Parameter) :
    Notifies kind (x.parametersAfter owner acc ps) [] := by
  induction ps generalizing acc with
  | nil =>
    rw [parametersAfter]
    exact Notifies.pure acc
  | cons p rest ih =>
    rw [parametersAfter]
    exact (Notifies.typeOf x.table p.type _).bind (fun type => ih _)

lemma constructor_notifies (d : Declaration) (c : Constructor) :
    Notifies isInitializerWarning (x.constructor d c) [] := by
  rw [constructor]
  refine (x.parametersAfter_notifies d.name [] c.parameters).bind (fun ps => ?_)
  split
  · exact Notifies.pure []
  · split
    · exact (Notifies.notify (isInitializerWarning_unmatchedNotice _ _)).bind
        (fun _ => Notifies.pure _)
    · exact Notifies.pure _

lemma property_notifies (d : Declaration) (p : Property) :
    Notifies isInitializerWarning (x.property d p) (initializerWarning? d p).toList := by
  obtain ⟨value, hvalue⟩ := x.exists_propertyValue d p
  have hwarning : Notifies isInitializerWarning (x.propertyValue d p)
      (initializerWarning? d p).toList := by
    intro _ _
    rw [hvalue]
    exact List.filter_eq_self.mpr (fun n hn => isInitializerWarning_of_mem hn)
  rw [property]
  exact ((Notifies.typeOf x.table p.type _).bind
    (fun type => hwarning.bind (fun value => Notifies.pure _))).congr (by simp)

lemma constant_notifies (d : Declaration) (c : Constant) :
    Notifies isInitializerWarning (x.constant d c) [] := by
  rw [constant]
  exact (Notifies.typeOf x.table c.type _).bind (fun type => Notifies.pure _)

lemma method_notifies (d : Declaration) (m : Method) :
    Notifies isInitializerWarning (x.method d m) [] := by
  rw [method]
  exact (Notifies.typeOf x.table m.returnType _).bind (fun type =>
    (x.parametersAfter_notifies _ [] m.parameters).bind (fun ps => Notifies.pure _))

lemma members_notifies (d : Declaration) :
    Notifies isInitializerWarning (x.members d)
      (d.properties.filterMap (initializerWarning? d)) := by
  have hconstructors := Notifies.mapM_nil (l := d.constructors)
    (fun c _ => x.constructor_notifies d c)
  have hproperties := Notifies.mapM (l := d.properties) (fun p _ => x.property_notifies d p)
  have hconstants := Notifies.mapM_nil (l := d.constants) (fun c _ => x.constant_notifies d c)
  have hmethods := Notifies.mapM_nil (l := d.methods.filter isForwarded)
    (fun m _ => x.method_notifies d m)
  rw [members, List.filterMap_eq_flatMap_toList]
  exact (hconstructors.bind (fun _ => hproperties.bind (fun _ => hconstants.bind (fun _ =>
    hmethods.bind (fun _ => Notifies.pure _))))).congr (by simp)

/-- The warnings of the types of a list, if each of them gives those of what is rendered for it. -/
lemma types_notifies {excluded : String → Bool} {ns : List ContractType}
    (h : ∀ t ∈ ns, Notifies isInitializerWarning (x.type excluded true t)
      (warningsOf (renderedProperties excluded t))) :
    Notifies isInitializerWarning (x.types excluded ns)
      (warningsOf ((renderOrderAll excluded ns).flatMap (fun u => writtenProperties u.decl))) := by
  induction ns with
  | nil =>
    rw [types, renderOrderAll]
    exact Notifies.pure []
  | cons t rest ih =>
    rw [List.forall_mem_cons] at h
    have hrest := ih h.2
    rw [types, renderOrderAll]
    cases excluded t.name with
    | true => simpa using hrest
    | false =>
      exact (h.1.bind (fun first => hrest.bind (fun others => Notifies.pure _))).congr
        (by simp [warningsOf, renderedProperties])

/-- Drafting a type gives the warnings of the properties that are rendered. -/
lemma type_notifies (excluded : String → Bool) (t : ContractType) (isNested : Bool) :
    Notifies isInitializerWarning (x.type excluded isNested t)
      (warningsOf (renderedProperties excluded t)) := by
  induction t using ContractType.nestedInduction generalizing isNested with
  | mk d ns ih =>
    have htypes := x.types_notifies (fun t ht => ih t ht true)
    rw [type, renderedProperties, renderOrder]
    cases hd : d.isEnum with
    | true =>
      -- an enumeration ends the descent
      have hnone : writtenProperties d = [] := by rw [writtenProperties, if_pos hd]
      refine Notifies.congr ((Notifies.require _).bind (fun _ => Notifies.pure _)) ?_
      simp [ContractType.decl, hnone, warningsOf]
    | false =>
      have hwritten : warningsOf (writtenProperties d) =
          d.properties.filterMap (initializerWarning? d) := by
        rw [warningsOf, writtenProperties, hd, if_neg Bool.false_ne_true, List.filterMap_map]
        rfl
      refine ((Notifies.require _).bind (fun _ => (x.members_notifies d).bind (fun _ =>
        htypes.bind (fun _ => Notifies.pure _)))).congr ?_
      rw [← hwritten]
      simp [ContractType.decl, warningsOf]

end Dialect

end DataContract.Java
