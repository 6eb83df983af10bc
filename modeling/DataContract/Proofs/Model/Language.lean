/-
The language of contract documents.

A document says which version it has, names its namespace and lists its types; a
type lists its members and the types nested in it.  Here the forms of documents,
types, members and parameters are described entry by entry, as they are meant to
be written.  They are the values that the schema admits.
-/
import DataContract.Path
import DataContract.Proofs.Schema.Admission

namespace DataContract

namespace Value

/-! ### Parameters and members -/

/-- A parameter of a method or a constructor. -/
def IsParameter (v : Value) : Prop :=
  v.Requires "name" IsNonEmptyText ∧ v.Requires "type" (IsTextLike .typeReference)

/-- What a member of any kind can say. -/
structure HasMemberHead (v : Value) : Prop where
  name : v.Allows "name" IsNonEmptyText
  accessibility :
    v.Allows "accessibility" (IsWordOf ["public", "internal", "protected", "private"])
  isStatic : v.Allows "is_static" IsTruthValue
  documentation : v.Allows "documentation" IsText

/-- What a member of a kind has to say and can say beside that. -/
def HasMemberBody (v : Value) : MemberKind → Prop
  | .property =>
    v.Requires "name" IsNonEmptyText ∧ v.Requires "type" (IsTextLike .typeReference) ∧
      v.Allows "initializer_source_text" IsText
  | .constant =>
    v.Requires "name" IsNonEmptyText ∧ v.Requires "type" (IsTextLike .typeReference) ∧
      ∃ x, v.field? "value" = some x
  | .enumValue => v.Requires "name" IsNonEmptyText
  | .method =>
    v.Requires "name" IsNonEmptyText ∧ v.Allows "return_type" (IsTextLike .typeReference) ∧
      v.Allows "parameters" (IsListOf IsParameter) ∧
      v.Allows "method_kind" (IsWordOf ["ordinary", "operator", "conversion", "accessor"])
  | .constructor => v.Allows "parameters" (IsListOf IsParameter)

/-- A member: its tag names its kind, and it has the form of that kind. -/
def IsMember (v : Value) : Prop :=
  ∃ kind : MemberKind,
    v.field? "member" = some (.str kind.word) ∧ v.HasMemberHead ∧ v.HasMemberBody kind

/-! ### Types -/

/-- What a type says apart from the types nested in it. -/
structure HasTypeHead (v : Value) : Prop where
  name : v.Requires "name" (IsTextLike .typeName)
  kind : v.Allows "kind" (IsWordOf ["class", "static_class", "enum"])
  base : v.Allows "base_type" IsText
  isStatic : v.Allows "is_static" IsTruthValue
  documentation : v.Allows "documentation" IsText
  sourceFile : v.Allows "source_file" IsText
  members : v.Allows "members" (IsListOf IsMember)

/-- A type, in which types are nested to any depth. -/
inductive IsType : Value → Prop
  | intro {v : Value} (head : v.HasTypeHead)
      (list : v.Allows "nested_types" (fun x => ∃ items, x = .list items))
      (nested : ∀ items, v.field? "nested_types" = some (.list items) → ∀ t ∈ items, IsType t) :
      IsType v

lemma isType_iff {v : Value} :
    v.IsType ↔ v.HasTypeHead ∧ v.Allows "nested_types" (IsListOf IsType) := by
  constructor
  · rintro ⟨head, list, nested⟩
    refine ⟨head, fun x hx => ?_⟩
    obtain ⟨items, rfl⟩ := list x hx
    exact ⟨items, rfl, nested items hx⟩
  · rintro ⟨head, h⟩
    refine ⟨head, fun x hx => ?_, fun items hitems => ?_⟩
    · obtain ⟨items, rfl, -⟩ := h x hx
      exact ⟨items, rfl⟩
    · obtain ⟨_, heq, ht⟩ := h _ hitems
      cases heq
      exact ht

/-- One type is the other one, or it is nested in it at some depth. -/
inductive TypeWithin : Value → Value → Prop
  | self (t : Value) : TypeWithin t t
  | nested {t u x : Value} {items : List Value}
      (hitems : t.field? "nested_types" = some (.list items)) (hu : u ∈ items)
      (hx : TypeWithin u x) : TypeWithin t x

/-! ### Documents -/

/-- A document with a list of types, of whatever version. -/
structure IsDocument (v : Value) (types : List Value) : Prop where
  version : v.Requires "ir_version" (IsTextLike .version)
  namespaceName : v.Requires "namespace" IsNonEmptyText
  types_eq : v.field? "types" = some (.list types)
  isType : ∀ t ∈ types, t.IsType
  /-- Every type at the top says where it comes from. -/
  sourceFile : ∀ t ∈ types, t.Requires "source_file" IsNonEmptyText
  /-- No two types at the top have one name. -/
  distinct : (types.map (fun t => t.field? "name")).Nodup
  /-- No type at any depth comes from a file with a rooted path. -/
  relative : ∀ t ∈ types, ∀ u, TypeWithin t u →
    ∀ s, u.field? "source_file" = some (.str s) → isRooted s = false

/-- The version of a document is a supported one: what stands before the first point is `1`. -/
def HasSupportedVersion (v : Value) : Prop :=
  ∃ s rest, v.field? "ir_version" = some (.str s) ∧ s.toList = '1' :: '.' :: rest

/-! ### Forms of the parts of a value -/

lemma Allows.imp {v : Value} {name : String} {f g : Value → Prop} (h : v.Allows name f)
    (himp : ∀ x, f x → g x) : v.Allows name g :=
  fun x hx => himp x (h x hx)

lemma IsListOf.imp {v : Value} {f g : Value → Prop} (h : v.IsListOf f)
    (himp : ∀ x, f x → g x) : v.IsListOf g := by
  obtain ⟨items, rfl, hitems⟩ := h
  exact ⟨items, rfl, fun x hx => himp x (hitems x hx)⟩

lemma IsJson.allows_congr {v : Value} (hv : v.IsJson) {name : String} {f g : Value → Prop}
    (h : ∀ x, x.IsJson → (f x ↔ g x)) : v.Allows name f ↔ v.Allows name g :=
  forall_congr' (fun x => imp_congr_right (fun hx => h x (hv.of_field? hx)))

lemma IsJson.isListOf_congr {v : Value} (hv : v.IsJson) {f g : Value → Prop}
    (h : ∀ x, x.IsJson → (f x ↔ g x)) : v.IsListOf f ↔ v.IsListOf g := by
  refine exists_congr (fun items => and_congr_right ?_)
  rintro rfl
  exact forall₂_congr (fun x hx => h x (isJson_list_iff.mp hv x hx))

end Value

namespace Schema

open Value

/-! ### What is admitted has its form -/

lemma isParameter_of_admits {v : Value}
    (h : (Schema.record ["name", "type"] [("name", nonEmpty), ("type", typeReference)]).Admits v) :
    v.IsParameter := by
  have hrequired := (exists_of_admits_record h).2
  have hallows := allows_of_admits_record (by decide) h
  simp only [List.forall_mem_cons, List.not_mem_nil, false_implies, implies_true, and_true]
    at hrequired hallows
  exact ⟨requires_iff.mpr ⟨hrequired.1, hallows.1.imp (fun _ => admits_nonEmpty_iff.mp)⟩,
    requires_iff.mpr ⟨hrequired.2, hallows.2.imp (fun _ => admits_typeReference_iff.mp)⟩⟩

lemma isListOf_of_admits_parameters {v : Value} (h : parameters.Admits v) :
    v.IsListOf IsParameter :=
  (admits_list_iff.mp h).imp (fun _ => isParameter_of_admits)

lemma allows_memberEntries_iff {v : Value} :
    (∀ n ∈ memberEntries, v.Allows n.1 n.2.Admits) ↔ v.HasMemberHead := by
  simp only [memberEntries, List.forall_mem_cons, List.not_mem_nil, false_implies, implies_true,
    and_true, Allows, admits_nonEmpty_iff, admits_word_iff, admits_boolean_iff,
    admits_plainText_iff]
  constructor
  · rintro ⟨hname, haccess, hstatic, hdoc⟩
    exact ⟨hname, haccess, hstatic, hdoc⟩
  · rintro ⟨hname, haccess, hstatic, hdoc⟩
    exact ⟨hname, haccess, hstatic, hdoc⟩

/-- A member that has what its kind requires; a name has its form already by the head. -/
lemma hasMemberBody_of_admits {v : Value} {kind : MemberKind} (hhead : v.HasMemberHead)
    (hrequired : ∀ name ∈ required kind, ∃ x, v.field? name = some x)
    (hown : ∀ n ∈ ownEntries kind, v.Allows n.1 n.2.Admits) : v.HasMemberBody kind := by
  cases kind with
  | property =>
    simp only [required, ownEntries, List.forall_mem_cons, List.not_mem_nil, false_implies,
      implies_true, and_true] at hrequired hown
    exact ⟨requires_iff.mpr ⟨hrequired.1, hhead.name⟩,
      requires_iff.mpr ⟨hrequired.2, hown.1.imp (fun _ => admits_typeReference_iff.mp)⟩,
      hown.2.imp (fun _ => admits_plainText_iff.mp)⟩
  | constant =>
    simp only [required, ownEntries, List.forall_mem_cons, List.not_mem_nil, false_implies,
      implies_true, and_true] at hrequired hown
    exact ⟨requires_iff.mpr ⟨hrequired.1, hhead.name⟩,
      requires_iff.mpr ⟨hrequired.2.1, hown.imp (fun _ => admits_typeReference_iff.mp)⟩,
      hrequired.2.2⟩
  | enumValue =>
    exact requires_iff.mpr ⟨hrequired "name" (by decide), hhead.name⟩
  | method =>
    simp only [required, ownEntries, List.forall_mem_cons, List.not_mem_nil, false_implies,
      implies_true, and_true] at hrequired hown
    exact ⟨requires_iff.mpr ⟨hrequired, hhead.name⟩,
      hown.1.imp (fun _ => admits_typeReference_iff.mp),
      hown.2.1.imp (fun _ => isListOf_of_admits_parameters),
      hown.2.2.imp (fun _ => admits_word_iff.mp)⟩
  | constructor =>
    exact (hown ("parameters", parameters) (by simp [ownEntries])).imp
      (fun _ => isListOf_of_admits_parameters)

lemma memberOf_names_nodup (kind : MemberKind) :
    (((discriminator, Schema.word [kind.word]) :: memberEntries ++ ownEntries kind).map
      Prod.fst).Nodup := by
  cases kind <;> decide

lemma isMember_of_admits {v : Value} {kind : MemberKind} (h : (memberOf kind).Admits v) :
    v.field? "member" = some (.str kind.word) ∧ v.HasMemberHead ∧ v.HasMemberBody kind := by
  have hrequired := (exists_of_admits_record h).2
  have hallows := allows_of_admits_record (memberOf_names_nodup kind) h
  simp only [List.cons_append, List.forall_mem_cons, List.forall_mem_append] at hrequired hallows
  obtain ⟨⟨tag, htag⟩, hrequired⟩ := hrequired
  obtain ⟨hword, hhead, hown⟩ := hallows
  obtain ⟨s, hs, rfl⟩ := admits_word_iff.mp (hword tag htag)
  rw [List.mem_singleton] at hs
  have hhead := allows_memberEntries_iff.mp hhead
  exact ⟨hs ▸ htag, hhead, hasMemberBody_of_admits hhead hrequired hown⟩

lemma find?_memberKind (tag : Value) (name : String) (s : Schema) :
    (MemberKind.all.map (fun k => (k.word, memberOf k))).find? (fun o => tag.isStr o.1) =
        some (name, s) ↔ ∃ kind : MemberKind, tag = .str kind.word ∧ name = kind.word ∧
          s = memberOf kind := by
  constructor
  · intro h
    obtain ⟨kind, -, heq⟩ := List.mem_map.mp (List.mem_of_find?_eq_some h)
    have htag : tag = .str name := by simpa using List.find?_some h
    cases heq
    exact ⟨kind, htag, rfl, rfl⟩
  · rintro ⟨kind, rfl, rfl, rfl⟩
    cases kind <;> rfl

lemma isMember_of_admitsItem {v : Value} (h : member.AdmitsItem v) : v.IsMember := by
  obtain ⟨s, hselect, hs⟩ := admitsItem_variant_iff.mp h
  obtain ⟨tag, name, -, hfind⟩ := select_eq_ok_iff.mp hselect
  obtain ⟨kind, -, -, rfl⟩ := (find?_memberKind tag name s).mp hfind
  exact ⟨kind, isMember_of_admits hs⟩

lemma hasTypeHead_of_admits {v : Value} (h : typeRecord.Admits v) :
    v.HasTypeHead ∧ v.Allows "nested_types" (Schema.list .contractType).Admits := by
  have hrequired := (exists_of_admits_record h).2
  have hallows := allows_of_admits_record (by decide) h
  simp only [List.forall_mem_cons, List.not_mem_nil, false_implies, implies_true, and_true]
    at hrequired hallows
  obtain ⟨hname, hkind, hbase, hstatic, hdoc, hsource, hmembers, hnested⟩ := hallows
  refine ⟨⟨?_, ?_, ?_, ?_, ?_, ?_, ?_⟩, hnested⟩
  · exact requires_iff.mpr ⟨hrequired, hname.imp (fun _ => (admits_pattern_iff rfl rfl).mp)⟩
  · exact hkind.imp (fun _ => admits_word_iff.mp)
  · exact hbase.imp (fun _ => admits_plainText_iff.mp)
  · exact hstatic.imp (fun _ => admits_boolean_iff.mp)
  · exact hdoc.imp (fun _ => admits_plainText_iff.mp)
  · exact hsource.imp (fun _ => admits_plainText_iff.mp)
  · exact hmembers.imp (fun _ hx => (admits_list_iff.mp hx).imp (fun _ => isMember_of_admitsItem))

lemma isType_of_admits {v : Value} :
    (Schema.contractType.Admits v → v.IsType) ∧
      ((Schema.list .contractType).Admits v → v.IsListOf IsType) := by
  have htype : ∀ {v : Value}, (∀ x, (∃ name, v.field? name = some x) →
      (Schema.list .contractType).Admits x → x.IsListOf IsType) →
        Schema.contractType.Admits v → v.IsType := by
    intro v hparts h
    obtain ⟨hhead, hnested⟩ := hasTypeHead_of_admits (admits_contractType_iff.mp h)
    exact isType_iff.mpr ⟨hhead, fun x hx => hparts x ⟨_, hx⟩ (hnested x hx)⟩
  induction v using Value.partsInduction with
  | list items ih =>
    refine ⟨htype (fun x hx => ?_), fun h => ?_⟩
    · obtain ⟨name, hx⟩ := hx
      cases hx
    · obtain ⟨l, heq, hl⟩ := admits_list_iff.mp h
      cases heq
      exact ⟨items, rfl, fun x hx => (ih x hx).1 (hl x hx)⟩
  | map es ih =>
    refine ⟨htype (fun x hx => ?_), fun h => ?_⟩
    · obtain ⟨name, hx⟩ := hx
      exact (ih _ (Entries.mem_of_get? hx)).2
    · obtain ⟨l, heq, -⟩ := admits_list_iff.mp h
      cases heq
  | other v hlist hmap =>
    refine ⟨htype (fun x hx => ?_), fun h => ?_⟩
    · obtain ⟨name, hx⟩ := hx
      obtain ⟨es, rfl⟩ := exists_map_of_field? hx
      exact absurd rfl (hmap es)
    · obtain ⟨l, rfl, -⟩ := admits_list_iff.mp h
      exact absurd rfl (hlist l)

lemma requires_of_admits_document {v : Value} (h : document.Admits v) :
    v.Requires "ir_version" (IsTextLike .version) ∧ v.Requires "namespace" IsNonEmptyText ∧
      v.Requires "types" (IsListOf IsType) := by
  have hrequired := (exists_of_admits_record h).2
  have hallows := allows_of_admits_record (by decide) h
  simp only [List.forall_mem_cons, List.not_mem_nil, false_implies, implies_true, and_true]
    at hrequired hallows
  obtain ⟨hasVersion, hasName, hasTypes⟩ := hrequired
  obtain ⟨hversion, hname, htypes⟩ := hallows
  refine ⟨requires_iff.mpr ⟨hasVersion, ?_⟩, requires_iff.mpr ⟨hasName, ?_⟩,
    requires_iff.mpr ⟨hasTypes, ?_⟩⟩
  · exact hversion.imp (fun _ => (admits_pattern_iff rfl rfl).mp)
  · exact hname.imp (fun _ => (admits_minLength_one_iff rfl rfl).mp)
  · exact htypes.imp (fun _ => isType_of_admits.2)

/-! ### What the schema admits -/

lemma admits_parameter_iff {v : Value} (hv : v.IsJson) :
    (Schema.record ["name", "type"] [("name", nonEmpty), ("type", typeReference)]).Admits v ↔
      v.IsParameter := by
  refine ⟨isParameter_of_admits, ?_⟩
  rintro ⟨hname, htype⟩
  obtain ⟨⟨x, hx⟩, hname⟩ := requires_iff.mp hname
  obtain ⟨hasType, htype⟩ := requires_iff.mp htype
  rw [admits_record_iff (by decide) hv]
  simp only [List.forall_mem_cons, List.not_mem_nil, false_implies, implies_true, and_true]
  exact ⟨exists_map_of_field? hx, ⟨⟨x, hx⟩, hasType⟩,
    hname.imp (fun _ => admits_nonEmpty_iff.mpr),
    htype.imp (fun _ => admits_typeReference_iff.mpr)⟩

lemma admits_parameters_iff {v : Value} (hv : v.IsJson) :
    parameters.Admits v ↔ v.IsListOf IsParameter := by
  rw [parameters, admits_list_iff]
  exact hv.isListOf_congr (fun x hx => admits_parameter_iff hx)

/-- The required entries and the entries of its own that a member of a kind has. -/
lemma admits_of_hasMemberBody {v : Value} (hv : v.IsJson) {kind : MemberKind}
    (h : v.HasMemberBody kind) :
    (∀ name ∈ required kind, ∃ x, v.field? name = some x) ∧
      ∀ n ∈ ownEntries kind, v.Allows n.1 n.2.Admits := by
  have hparams : v.Allows "parameters" (IsListOf IsParameter) →
      v.Allows "parameters" parameters.Admits :=
    (hv.allows_congr (fun x hx => admits_parameters_iff hx)).mpr
  cases kind with
  | property =>
    obtain ⟨hname, htype, hinit⟩ := h
    simp only [required, ownEntries, List.forall_mem_cons, List.not_mem_nil, false_implies,
      implies_true, and_true]
    exact ⟨⟨(requires_iff.mp hname).1, (requires_iff.mp htype).1⟩,
      htype.allows.imp (fun _ => admits_typeReference_iff.mpr),
      hinit.imp (fun _ => admits_plainText_iff.mpr)⟩
  | constant =>
    obtain ⟨hname, htype, hvalue⟩ := h
    simp only [required, ownEntries, List.forall_mem_cons, List.not_mem_nil, false_implies,
      implies_true, and_true]
    exact ⟨⟨(requires_iff.mp hname).1, (requires_iff.mp htype).1, hvalue⟩,
      htype.allows.imp (fun _ => admits_typeReference_iff.mpr)⟩
  | enumValue =>
    simp only [required, ownEntries, List.forall_mem_singleton, List.not_mem_nil, false_implies,
      implies_true, and_true]
    exact (requires_iff.mp h).1
  | method =>
    obtain ⟨hname, hreturn, hparameters, hkind⟩ := h
    simp only [required, ownEntries, List.forall_mem_cons, List.not_mem_nil, false_implies,
      implies_true, and_true]
    exact ⟨(requires_iff.mp hname).1, hreturn.imp (fun _ => admits_typeReference_iff.mpr),
      hparams hparameters, hkind.imp (fun _ => admits_word_iff.mpr)⟩
  | constructor =>
    simp only [required, ownEntries, List.forall_mem_singleton, List.not_mem_nil, false_implies,
      implies_true, true_and]
    exact hparams h

/-- The schema of a kind of member admits the members of that kind. -/
lemma admits_memberOf_iff {v : Value} (hv : v.IsJson) (kind : MemberKind) :
    (memberOf kind).Admits v ↔
      v.field? "member" = some (.str kind.word) ∧ v.HasMemberHead ∧ v.HasMemberBody kind := by
  refine ⟨isMember_of_admits, ?_⟩
  rintro ⟨htag, hhead, hbody⟩
  obtain ⟨hrequired, hown⟩ := admits_of_hasMemberBody hv hbody
  rw [memberOf, admits_record_iff (memberOf_names_nodup kind) hv]
  simp only [List.cons_append, List.forall_mem_cons, List.forall_mem_append,
    allows_memberEntries_iff]
  refine ⟨exists_map_of_field? htag, ⟨⟨_, htag⟩, hrequired⟩, ?_, hhead, hown⟩
  intro x hx
  have hsame : x = .str kind.word := Option.some.inj (hx.symm.trans htag)
  exact admits_word_iff.mpr ⟨kind.word, by simp, hsame⟩

lemma admitsItem_member_iff {v : Value} (hv : v.IsJson) : member.AdmitsItem v ↔ v.IsMember := by
  refine ⟨isMember_of_admitsItem, ?_⟩
  rintro ⟨kind, hkind⟩
  rw [member, admitsItem_variant_iff]
  simp only [select_eq_ok_iff, find?_memberKind]
  exact ⟨memberOf kind, ⟨_, _, hkind.1, kind, rfl, rfl, rfl⟩,
    (admits_memberOf_iff hv kind).mpr hkind⟩

/-- The schema of types, with the nested types still to be described. -/
lemma admits_typeRecord_iff {v : Value} (hv : v.IsJson) :
    typeRecord.Admits v ↔
      v.HasTypeHead ∧ v.Allows "nested_types" (Schema.list .contractType).Admits := by
  refine ⟨hasTypeHead_of_admits, ?_⟩
  rintro ⟨⟨hname, hkind, hbase, hstatic, hdoc, hsource, hmembers⟩, hnested⟩
  obtain ⟨⟨x, hx⟩, hname⟩ := requires_iff.mp hname
  have hlist : v.Allows "members" (Schema.list member).Admits :=
    (hv.allows_congr (fun x hx => admits_list_iff.trans
      (hx.isListOf_congr (fun y hy => admitsItem_member_iff hy)))).mpr hmembers
  rw [typeRecord, admits_record_iff (by decide) hv]
  simp only [List.forall_mem_cons, List.not_mem_nil, false_implies, implies_true, and_true]
  exact ⟨exists_map_of_field? hx, ⟨x, hx⟩, hname.imp (fun _ => (admits_pattern_iff rfl rfl).mpr),
    hkind.imp (fun _ => admits_word_iff.mpr), hbase.imp (fun _ => admits_plainText_iff.mpr),
    hstatic.imp (fun _ => admits_boolean_iff.mpr), hdoc.imp (fun _ => admits_plainText_iff.mpr),
    hsource.imp (fun _ => admits_plainText_iff.mpr), hlist, hnested⟩

lemma admits_of_isType {v : Value} (hv : v.IsJson) (h : v.IsType) :
    Schema.contractType.Admits v := by
  induction h with
  | @intro v head list nested ih =>
    refine admits_contractType_iff.mpr ((admits_typeRecord_iff hv).mpr ⟨head, fun x hx => ?_⟩)
    obtain ⟨items, rfl⟩ := list x hx
    have hjson := isJson_list_iff.mp (hv.of_field? hx)
    exact admits_list_iff.mpr ⟨items, rfl, fun t ht => ih items hx t ht (hjson t ht)⟩

/-- The schema of documents admits what has a version, a namespace and a list of types. -/
lemma admits_document_iff {v : Value} (hv : v.IsJson) :
    document.Admits v ↔
      v.Requires "ir_version" (IsTextLike .version) ∧ v.Requires "namespace" IsNonEmptyText ∧
        v.Requires "types" (IsListOf IsType) := by
  refine ⟨requires_of_admits_document, ?_⟩
  rintro ⟨hversion, hname, htypes⟩
  obtain ⟨⟨x, hx⟩, hversion⟩ := requires_iff.mp hversion
  obtain ⟨hasName, hname⟩ := requires_iff.mp hname
  obtain ⟨y, hy, types, rfl, htypes⟩ := htypes
  have hjson := isJson_list_iff.mp (hv.of_field? hy)
  have hlist : v.Allows "types" (Schema.list .contractType).Admits := by
    intro z hz
    cases hy.symm.trans hz
    exact admits_list_iff.mpr ⟨types, rfl, fun t ht => admits_of_isType (hjson t ht) (htypes t ht)⟩
  rw [document, admits_record_iff (by decide) hv]
  simp only [List.forall_mem_cons, List.not_mem_nil, false_implies, implies_true, and_true]
  exact ⟨exists_map_of_field? hx, ⟨⟨x, hx⟩, hasName, ⟨_, hy⟩⟩,
    hversion.imp (fun _ => (admits_pattern_iff rfl rfl).mpr),
    hname.imp (fun _ => (admits_minLength_one_iff rfl rfl).mpr), hlist⟩

end Schema

end DataContract
