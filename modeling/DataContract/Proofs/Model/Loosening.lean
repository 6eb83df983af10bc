/-
Contract types as loose types.

A contract type is a loose type in which every name is a text.  A type object of
the language of contract documents is read in the same way whether it was checked
or not: the loose type is the contract type, and the one reader fails as the
other one does.
-/
import DataContract.Model.Loose
import DataContract.Proofs.Model.Reading

namespace DataContract

open Value

/-! ### Loosening -/

/-- A text that may be missing, as a value. -/
def Value.ofText? : Option String → Value
  | some s => .str s
  | none => .null

/-- A parameter as a loose one. -/
def Parameter.loosen (p : Parameter) : LooseParameter := ⟨.str p.name, p.type⟩

/-- What a member has, as what a loose one has. -/
def MemberHead.loosen (h : MemberHead) : LooseHead :=
  ⟨.str h.name, h.accessibility, h.isStatic, .ofText? h.documentation⟩

/-- A property as a loose one. -/
def Property.loosen (p : Property) : LooseProperty :=
  { p.toMemberHead.loosen with type := p.type, initializer := .ofText? p.initializer }

/-- A constant as a loose one. -/
def Constant.loosen (c : Constant) : LooseConstant :=
  { c.toMemberHead.loosen with type := c.type, literal := c.literal }

/-- A method as a loose one. -/
def Method.loosen (m : Method) : LooseMethod :=
  { m.toMemberHead.loosen with
    returnType := m.returnType, parameters := m.parameters.map Parameter.loosen, kind := m.kind }

/-- A constructor as a loose one. -/
def Constructor.loosen (c : Constructor) : LooseConstructor :=
  { c.toMemberHead.loosen with parameters := c.parameters.map Parameter.loosen }

/-- A member as a loose one. -/
def Member.loosen : Member → LooseMember
  | .property p => .property p.loosen
  | .constant c => .constant c.loosen
  | .enumValue v => .enumValue v.toMemberHead.loosen
  | .method m => .method m.loosen
  | .constructor c => .constructor c.loosen

/-- A declaration as a loose one. -/
def Declaration.loosen (d : Declaration) : LooseDeclaration where
  name := .str d.name
  kind := d.kind
  base := .ofText? d.base
  isStatic := d.isStatic
  documentation := .ofText? d.documentation
  sourceFile := .str d.sourceFile
  members := d.members.map Member.loosen

namespace ContractType

mutual

/-- A contract type as a loose type. -/
def loosen : ContractType → LooseType
  | .mk d nested => .mk d.loosen (loosenAll nested)

/-- Contract types as loose types. -/
def loosenAll : List ContractType → List LooseType
  | [] => []
  | t :: rest => loosen t :: loosenAll rest

end

end ContractType

/-! ### Entries -/

namespace Entries

variable {es : Entries} {name : String} {form : Value → Prop}

/-- A text that has to be there is what the entry needs. -/
lemma exists_text_eq (h : (Value.map es).Requires name form) (hform : ∀ x, form x → x.IsText) :
    ∃ s, es.text name = .ok s ∧ es.needed name = .ok (.str s) := by
  obtain ⟨x, hx, hx'⟩ := h
  obtain ⟨s, rfl⟩ := hform x hx'
  rw [field?_map] at hx
  exact ⟨s, by rw [Entries.text, hx], by rw [needed, hx]⟩

/-- A text that can be missing is what the entry is. -/
lemma exists_text?_eq (h : (Value.map es).Allows name form) (hform : ∀ x, form x → x.IsText) :
    ∃ s?, es.text? name = .ok s? ∧ es.get? name = s?.map .str := by
  rw [Entries.text?]
  cases hx : es.get? name with
  | none => exact ⟨none, rfl, rfl⟩
  | some x =>
    obtain ⟨s, rfl⟩ := hform x (h x hx)
    exact ⟨some s, rfl, rfl⟩

lemma orNull_eq {s? : Option String} (h : es.get? name = s?.map .str) :
    es.orNull name = .ofText? s? := by
  rw [orNull, h]
  cases s? <;> rfl

/-- A list that is read is what the entry lists. -/
lemma listed_eq_items (h : (Value.map es).Allows name (IsListOf form)) :
    es.listed name = es.items name := by
  rw [listed, Entries.items]
  cases hx : es.get? name with
  | none => rfl
  | some x =>
    obtain ⟨l, rfl, -⟩ := h x hx
    rfl

end Entries

/-! ### Members -/

namespace LooseType

lemma readParameter_eq {v : Value} (h : v.IsParameter) :
    readParameter v = (DataContract.readParameter v).map Parameter.loosen := by
  obtain ⟨hname, htype⟩ := h
  obtain ⟨es, rfl⟩ := exists_map_of_field? hname.choose_spec.1
  obtain ⟨name, hname, hname'⟩ := Entries.exists_text_eq hname (fun _ => IsNonEmptyText.isText)
  obtain ⟨type, htype, htype'⟩ := Entries.exists_text_eq htype (fun _ => IsTextLike.isText)
  have hentries : entriesOf (.map es) = .ok es := rfl
  rw [readParameter, bind_of_ok hname', bind_of_ok htype', DataContract.readParameter,
    bind_of_ok hentries, bind_of_ok hname, bind_of_ok htype]
  rfl

/-- Parameters of the language are read in the same way, and without a failure. -/
lemma exists_readParameters_eq {es : Entries}
    (h : (Value.map es).Allows "parameters" (IsListOf IsParameter)) :
    ∃ ps, DataContract.readParameters es = .ok ps ∧
      readParameters es = .ok (ps.map Parameter.loosen) := by
  obtain ⟨ps, hps⟩ := readParameters_succeeds h
  obtain ⟨l, hl, -, hform⟩ := Entries.items_eq_ok h
  refine ⟨ps, hps, ?_⟩
  rw [DataContract.readParameters, bind_of_ok hl] at hps
  rw [readParameters, Entries.listed_eq_items h, bind_of_ok hl,
    mapM_eq_map (fun v hv => readParameter_eq (hform v hv)), hps]
  rfl

/-- The head of a member is read in the same way, in whatever order its parts are. -/
lemma exists_head_eq {es : Entries} {kind : MemberKind} (h : (Value.map es).HasMemberHead)
    (hname : kind ≠ .constructor → (Value.map es).Requires "name" IsNonEmptyText) :
    ∃ head, DataContract.readHead kind es = .ok head ∧
      es.word "accessibility" Accessibility.ofWord? .publicAccess = .ok head.accessibility ∧
      (kind ≠ .constructor → es.needed "name" = .ok (.str head.name)) ∧
      (kind = .constructor → (es.get? "name").getD (.str ".ctor") = .str head.name) ∧
      readHead kind es (.str head.name) head.accessibility = head.loosen := by
  obtain ⟨access, haccess⟩ :
      Succeeds (es.word "accessibility" Accessibility.ofWord? .publicAccess) :=
    Entries.word_succeeds _ h.accessibility (by decide)
  obtain ⟨doc?, hdoc, hdoc'⟩ := Entries.exists_text?_eq h.documentation (fun _ => id)
  have hloose : ∀ name, readHead kind es (.str name) access =
      (⟨name, access, es.bool "is_static" (kind == .constant || kind == .enumValue), doc?⟩ :
        MemberHead).loosen := by
    intro name
    rw [readHead, Entries.orNull_eq hdoc', MemberHead.loosen]
  by_cases hkind : kind = .constructor
  · obtain ⟨name?, hname?, hname'⟩ :=
      Entries.exists_text?_eq h.name (fun _ => IsNonEmptyText.isText)
    refine ⟨⟨name?.getD ".ctor", access, _, doc?⟩, ?_, haccess, absurd hkind, fun _ => ?_,
      hloose _⟩
    · have hctor : (es.text? "name").map (·.getD ".ctor") = .ok (name?.getD ".ctor") := by
        rw [hname?]
        rfl
      subst hkind
      unfold DataContract.readHead
      dsimp only
      rw [bind_of_ok hctor, bind_of_ok haccess, bind_of_ok hdoc]
      rfl
    · rw [hname']
      cases name? <;> rfl
  · obtain ⟨name, htext, hname'⟩ :=
      Entries.exists_text_eq (hname hkind) (fun _ => IsNonEmptyText.isText)
    refine ⟨⟨name, access, _, doc?⟩, ?_, haccess, fun _ => hname', fun heq => absurd heq hkind,
      hloose _⟩
    cases kind with
    | constructor => exact absurd rfl hkind
    | _ =>
      unfold DataContract.readHead
      dsimp only
      rw [bind_of_ok htext, bind_of_ok haccess, bind_of_ok hdoc]
      rfl

lemma readReference_str (s : String) : readReference (.str s) = .ok (TypeRef.parse s) := rfl

/-- A member of the language is read in the same way. -/
lemma readMember_eq {v : Value} (h : v.IsMember) :
    readMember v = (DataContract.readMember v).map Member.loosen := by
  obtain ⟨kind, htag, hhead, hbody⟩ := h
  obtain ⟨es, rfl⟩ := exists_map_of_field? htag
  rw [field?_map] at htag
  have hentries : entriesOf (.map es) = .ok es := rfl
  have htext : es.text "member" = .ok kind.word := by rw [Entries.text, htag]
  have hneeded : es.needed Schema.discriminator = .ok (.str kind.word) := by
    rw [Entries.needed, Schema.discriminator, htag]
  have hkind : (Value.str kind.word).asStr?.bind MemberKind.ofWord? = some kind :=
    kind.ofWord?_word
  obtain ⟨head, hread, haccess, hname, hctor, hloose⟩ :=
    exists_head_eq hhead (requires_name_of_body hbody)
  rw [readMember, readEntries, bind_of_ok hneeded, hkind, DataContract.readMember,
    bind_of_ok hentries, bind_of_ok htext, MemberKind.ofWord?_word]
  dsimp only
  rw [bind_of_ok haccess, bind_of_ok hread]
  cases kind with
  | property =>
    obtain ⟨-, htype, hinit⟩ := hbody
    obtain ⟨type, htype, htype'⟩ := Entries.exists_text_eq htype (fun _ => IsTextLike.isText)
    obtain ⟨init?, hinit, hinit'⟩ := Entries.exists_text?_eq hinit (fun _ => id)
    dsimp only
    rw [bind_of_ok (hname (by decide)), hloose, bind_of_ok htype', bind_of_ok htype,
      bind_of_ok hinit, Entries.orNull_eq hinit', bind_of_ok (readReference_str type)]
    rfl
  | constant =>
    obtain ⟨-, htype, x, hx⟩ := hbody
    obtain ⟨type, htype, htype'⟩ := Entries.exists_text_eq htype (fun _ => IsTextLike.isText)
    rw [field?_map] at hx
    have hvalue : es.needed "value" = .ok x := by rw [Entries.needed, hx]
    dsimp only
    rw [bind_of_ok (hname (by decide)), hloose, bind_of_ok htype', bind_of_ok htype,
      bind_of_ok (readReference_str type), bind_of_ok hvalue, hx]
    dsimp only
    -- only the text of the value can be missing, and then it is missing for both
    cases readLiteral x <;> rfl
  | enumValue =>
    dsimp only
    rw [bind_of_ok (hname (by decide)), hloose]
    rfl
  | method =>
    obtain ⟨-, hreturn, hparams, hmethod⟩ := hbody
    obtain ⟨type?, htype, htype'⟩ := Entries.exists_text?_eq hreturn (fun _ => IsTextLike.isText)
    obtain ⟨ps, hps, hps'⟩ := exists_readParameters_eq hparams
    have hreference : readReference ((es.get? "return_type").getD (.str "void")) =
        .ok (TypeRef.parse (type?.getD "void")) := by
      rw [htype']
      cases type? <;> rfl
    obtain ⟨k, hk⟩ : Succeeds (es.word "method_kind" MethodKind.ofWord? .ordinary) :=
      Entries.word_succeeds _ hmethod (by decide)
    dsimp only
    rw [bind_of_ok (hname (by decide)), hloose, bind_of_ok hreference, bind_of_ok hps',
      bind_of_ok hk, bind_of_ok htype, bind_of_ok hps, bind_of_ok hk]
    rfl
  | constructor =>
    obtain ⟨ps, hps, hps'⟩ := exists_readParameters_eq hbody
    dsimp only
    rw [hctor rfl, pure_bind, hloose, bind_of_ok hps', bind_of_ok hps]
    rfl

/-! ### Types -/

lemma readDeclaration_eq {es : Entries} (h : (Value.map es).HasTypeHead) (source : String) :
    readDeclaration (.str source) es =
      (DataContract.readDeclaration source es).map Declaration.loosen := by
  obtain ⟨name, hname, hname'⟩ := Entries.exists_text_eq h.name (fun _ => IsTextLike.isText)
  obtain ⟨kind, hkind⟩ : Succeeds (es.word "kind" TypeKind.ofWord? .plainClass) :=
    Entries.word_succeeds _ h.kind (by decide)
  obtain ⟨base?, hbase, hbase'⟩ := Entries.exists_text?_eq h.base (fun _ => id)
  obtain ⟨doc?, hdoc, hdoc'⟩ := Entries.exists_text?_eq h.documentation (fun _ => id)
  obtain ⟨l, hl, -, hform⟩ := Entries.items_eq_ok h.members
  have hmembers : l.mapM readMember =
      (l.mapM DataContract.readMember).map (List.map Member.loosen) :=
    mapM_eq_map (fun m hm => readMember_eq (hform m hm))
  rw [readDeclaration, bind_of_ok hname', bind_of_ok hkind, Entries.listed_eq_items h.members,
    bind_of_ok hl, hmembers, Entries.orNull_eq hbase', Entries.orNull_eq hdoc',
    DataContract.readDeclaration, bind_of_ok hname, bind_of_ok hkind, bind_of_ok hbase,
    bind_of_ok hl]
  cases l.mapM DataContract.readMember with
  | error e => rfl
  | ok members =>
    change _ = (es.text? "documentation" >>= _).map _
    rw [bind_of_ok hdoc]
    rfl

lemma ofEntries_eq (inherited : Value) (es : Entries) :
    ofEntries inherited es =
      ((es.get? TypeObject.nestedKey).map (ofListed inherited)).getD (.ok []) := by
  induction es with
  | nil =>
    rw [ofEntries]
    rfl
  | cons e rest ih =>
    obtain ⟨key, v⟩ := e
    rw [ofEntries, ofNamed?, ih]
    by_cases hkey : key.isStr TypeObject.nestedKey = true
    · simp [Entries.get?, hkey]
    · simp [Entries.get?, hkey]

lemma ofItems_eq {ts : List Value} {source : String}
    (h : ∀ t ∈ ts, ofValue (.str source) t =
      (readType source (TypeObject.ofValue t)).map ContractType.loosen) :
    ofItems (.str source) ts =
      (readTypes source (ts.map TypeObject.ofValue)).map ContractType.loosenAll := by
  induction ts with
  | nil =>
    rw [ofItems, List.map_nil, readTypes]
    rfl
  | cons t rest ih =>
    rw [List.forall_mem_cons] at h
    rw [ofItems, List.map_cons, readTypes, h.1, ih h.2]
    cases readType source (TypeObject.ofValue t) with
    | error e => rfl
    | ok first => cases readTypes source (rest.map TypeObject.ofValue) <;> rfl

/-- **A type object of the language is read as the same type, checked or not.** -/
theorem ofValue_eq_map_loosen {v : Value} (h : v.IsType) (inherited : String) :
    ofValue (.str inherited) v =
      (readType inherited (TypeObject.ofValue v)).map ContractType.loosen := by
  induction h generalizing inherited with
  | @intro v head list nested ih =>
    obtain ⟨es, rfl⟩ := exists_map_of_field? head.name.choose_spec.1
    obtain ⟨source?, -, hsource⟩ := Entries.exists_text?_eq head.sourceFile (fun _ => id)
    have hloose : (es.get? "source_file").getD (.str inherited) =
        .str (source?.getD inherited) := by
      rw [hsource]
      cases source? <;> rfl
    have hstrict : (TypeObject.mk es (TypeObject.ofEntries es)).source?.getD inherited =
        source?.getD inherited := by
      rw [TypeObject.source?, TypeObject.entries, hsource]
      cases source? <;> rfl
    have hnested : ∀ source, ofEntries (.str source) es =
        (readTypes source (TypeObject.ofEntries es)).map ContractType.loosenAll := by
      intro source
      rw [ofEntries_eq, TypeObject.ofEntries_eq]
      cases hx : es.get? TypeObject.nestedKey with
      | none => rfl
      | some x =>
        obtain ⟨items, rfl⟩ := list x hx
        rw [Option.map_some, Option.map_some, Option.getD_some, Option.getD_some, ofListed,
          TypeObject.ofListValue, TypeObject.ofItems_eq_map]
        exact ofItems_eq (fun t ht => ih items hx t ht source)
    rw [ofValue, hloose, TypeObject.ofValue, readType, hstrict, readDeclaration_eq head, hnested]
    cases DataContract.readDeclaration (source?.getD inherited) es with
    | error e => rfl
    | ok decl => cases readTypes (source?.getD inherited) (TypeObject.ofEntries es) <;> rfl

end LooseType

end DataContract
