/-
Reading succeeds on what the schema admits.

The readers look up entries and words on their own.  On a type of the language of
contract documents they fail for one cause only: a constant whose value has no
text.  In a JSON value there is none, so a JSON document without issues holds a
model.
-/
import DataContract.Proofs.Failure
import DataContract.Proofs.Model.Structure

namespace DataContract

open Value

/-! ### Constants without a text -/

namespace Value

/-- A value stands in the list under a name. -/
def HasItem (v : Value) (name : String) (x : Value) : Prop :=
  ∃ items, v.field? name = some (.list items) ∧ x ∈ items

/-- A constant whose value has no text. -/
def IsTextlessConstant (v : Value) : Prop :=
  v.field? "member" = some (.str "const_field") ∧ ∃ x, v.field? "value" = some x ∧ x.hasText = false

/-- A type, or one nested in it, has a constant without a text. -/
def HasTextlessConstant (t : Value) : Prop :=
  ∃ u, TypeWithin t u ∧ ∃ m, u.HasItem "members" m ∧ m.IsTextlessConstant

lemma IsJson.of_hasItem {v x : Value} {name : String} (hv : v.IsJson) (h : v.HasItem name x) :
    x.IsJson := by
  obtain ⟨items, hitems, hx⟩ := h
  exact isJson_list_iff.mp (hv.of_field? hitems) x hx

lemma IsJson.of_typeWithin {t u : Value} (ht : t.IsJson) (h : TypeWithin t u) : u.IsJson := by
  induction h with
  | self => exact ht
  | nested hitems hu _ ih => exact ih (ht.of_hasItem ⟨_, hitems, hu⟩)

lemma IsJson.not_hasTextlessConstant {t : Value} (ht : t.IsJson) : ¬ t.HasTextlessConstant := by
  rintro ⟨u, hu, m, hm, -, x, hx, htext⟩
  have hjson := ((ht.of_typeWithin hu).of_hasItem hm).of_field? hx
  exact Bool.false_ne_true (htext.symm.trans hjson.hasText)

/-- A type has such a constant itself, or a type right inside it has one. -/
lemma hasTextlessConstant_iff {t : Value} :
    t.HasTextlessConstant ↔
      (∃ m, t.HasItem "members" m ∧ m.IsTextlessConstant) ∨
        ∃ u, t.HasItem "nested_types" u ∧ u.HasTextlessConstant := by
  constructor
  · rintro ⟨u, hu, hm⟩
    cases hu with
    | self => exact .inl hm
    | nested hitems hmem hwithin => exact .inr ⟨_, ⟨_, hitems, hmem⟩, u, hwithin, hm⟩
  · rintro (hm | ⟨u, ⟨items, hitems, hmem⟩, w, hw, hm⟩)
    · exact ⟨t, .self t, hm⟩
    · exact ⟨w, .nested hitems hmem hw, hm⟩

end Value

/-! ### Entries -/

namespace Entries

variable {es : Entries} {name : String}

lemma text_succeeds {form : Value → Prop} (h : (Value.map es).Requires name form)
    (hform : ∀ x, form x → x.IsText) : Succeeds (es.text name) := by
  obtain ⟨x, hx, hx'⟩ := h
  obtain ⟨s, rfl⟩ := hform x hx'
  rw [field?_map] at hx
  exact ⟨s, by rw [Entries.text, hx]⟩

lemma text?_succeeds {form : Value → Prop} (h : (Value.map es).Allows name form)
    (hform : ∀ x, form x → x.IsText) : Succeeds (es.text? name) := by
  rw [Entries.text?]
  cases hx : es.get? name with
  | none => exact ⟨none, rfl⟩
  | some x =>
    obtain ⟨s, rfl⟩ := hform x (h x hx)
    exact ⟨some s, rfl⟩

lemma word_succeeds {α : Type} {ofWord? : String → Option α} {words : List String} (fallback : α)
    (h : (Value.map es).Allows name (IsWordOf words))
    (hwords : ∀ w ∈ words, (ofWord? w).isSome = true) :
    Succeeds (es.word name ofWord? fallback) := by
  rw [Entries.word]
  cases hx : es.get? name with
  | none => exact ⟨fallback, rfl⟩
  | some x =>
    obtain ⟨w, hw, rfl⟩ := h x hx
    obtain ⟨a, ha⟩ := Option.isSome_iff_exists.mp (hwords w hw)
    exact ⟨a, by simp only [ha]⟩

/-- The items of an entry are read: they are what is listed under its name. -/
lemma items_eq_ok {form : Value → Prop} (h : (Value.map es).Allows name (IsListOf form)) :
    ∃ l, es.items name = .ok l ∧ (∀ x, x ∈ l ↔ (Value.map es).HasItem name x) ∧
      ∀ x ∈ l, form x := by
  rw [Entries.items]
  cases hx : es.get? name with
  | none =>
    refine ⟨[], rfl, fun x => ?_, by simp⟩
    simp [HasItem, hx]
  | some x =>
    obtain ⟨l, rfl, hl⟩ := h x hx
    refine ⟨l, rfl, fun x => ?_, hl⟩
    simp [HasItem, hx]

end Entries

lemma Value.IsNonEmptyText.isText {v : Value} (h : v.IsNonEmptyText) : v.IsText :=
  ⟨h.choose, h.choose_spec.1⟩

lemma Value.IsTextLike.isText {p : Pattern} {v : Value} (h : v.IsTextLike p) : v.IsText :=
  ⟨h.choose, h.choose_spec.1⟩

/-! ### Members -/

lemma readParameter_succeeds {v : Value} (h : v.IsParameter) : Succeeds (readParameter v) := by
  obtain ⟨hname, htype⟩ := h
  obtain ⟨es, rfl⟩ := exists_map_of_field? hname.choose_spec.1
  rw [readParameter]
  refine Succeeds.bind_of_eq rfl ?_
  refine Succeeds.bind (Entries.text_succeeds hname (fun _ => IsNonEmptyText.isText))
    (fun name => ?_)
  refine Succeeds.bind (Entries.text_succeeds htype (fun _ => IsTextLike.isText)) (fun type => ?_)
  exact Succeeds.ok _

lemma readParameters_succeeds {es : Entries}
    (h : (Value.map es).Allows "parameters" (IsListOf IsParameter)) :
    Succeeds (readParameters es) := by
  obtain ⟨l, hl, -, hform⟩ := Entries.items_eq_ok h
  rw [readParameters]
  refine Succeeds.bind_of_eq hl ?_
  exact Succeeds.mapM (fun x hx => readParameter_succeeds (hform x hx))

lemma readHead_succeeds {es : Entries} {kind : MemberKind} (h : (Value.map es).HasMemberHead)
    (hname : kind ≠ .constructor → (Value.map es).Requires "name" IsNonEmptyText) :
    Succeeds (readHead kind es) := by
  have hrest : ∀ (name : String) (isStatic : Bool), Succeeds (do
      let accessibility ← es.word "accessibility" Accessibility.ofWord? .publicAccess
      let documentation ← es.text? "documentation"
      return (⟨name, accessibility, isStatic, documentation⟩ : MemberHead)) := by
    intro name isStatic
    refine Succeeds.bind (Entries.word_succeeds _ h.accessibility (by decide)) (fun access => ?_)
    refine Succeeds.bind (Entries.text?_succeeds h.documentation (fun _ => id)) (fun doc => ?_)
    exact Succeeds.ok _
  cases kind with
  | constructor =>
    exact Succeeds.bind ((Entries.text?_succeeds h.name (fun _ => IsNonEmptyText.isText)).map _)
      (fun name => hrest name _)
  | _ =>
    exact Succeeds.bind
      (Entries.text_succeeds (hname (by simp)) (fun _ => IsNonEmptyText.isText))
      (fun name => hrest name _)

lemma MemberKind.ofWord?_word (kind : MemberKind) : MemberKind.ofWord? kind.word = some kind := by
  cases kind <;> decide

lemma readLiteral_failsIff (v : Value) :
    FailsIff (readLiteral v) (.document .tooManyDigits) (v.hasText = false) := by
  rw [readLiteral]
  cases v.hasText with
  | true => exact FailsIff.of_not (by decide) (Succeeds.ok _)
  | false => exact ⟨fun _ => rfl, fun h => absurd rfl h⟩

lemma requires_name_of_body {v : Value} {kind : MemberKind} (h : v.HasMemberBody kind)
    (hkind : kind ≠ .constructor) : v.Requires "name" IsNonEmptyText := by
  cases kind with
  | constructor => exact absurd rfl hkind
  | enumValue => exact h
  | _ => exact h.1

/-- A member of the language is read, unless it is a constant without a text. -/
lemma readMember_failsIff {v : Value} (h : v.IsMember) :
    FailsIff (readMember v) (.document .tooManyDigits) v.IsTextlessConstant := by
  obtain ⟨kind, htag, hhead, hbody⟩ := h
  obtain ⟨es, rfl⟩ := exists_map_of_field? htag
  have htext : es.text "member" = .ok kind.word := by
    rw [field?_map] at htag
    rw [Entries.text, htag]
  have hother : kind ≠ .constant → ¬ (Value.map es).IsTextlessConstant := by
    rintro hkind ⟨htag', -⟩
    rw [htag, Option.some.injEq, Value.str.injEq] at htag'
    revert hkind htag'
    cases kind <;> decide
  rw [readMember]
  refine FailsIff.bind_of_eq rfl (FailsIff.bind_of_eq htext ?_)
  rw [MemberKind.ofWord?_word]
  refine FailsIff.bind_succeeds (readHead_succeeds hhead (requires_name_of_body hbody))
    (fun head => ?_)
  cases kind with
  | property =>
    obtain ⟨-, htype, hinit⟩ := hbody
    refine FailsIff.of_not (hother (by decide)) ?_
    refine Succeeds.bind (Entries.text_succeeds htype (fun _ => IsTextLike.isText)) (fun type => ?_)
    refine Succeeds.bind (Entries.text?_succeeds hinit (fun _ => id)) (fun init => ?_)
    exact Succeeds.ok _
  | constant =>
    obtain ⟨-, htype, x, hx⟩ := hbody
    refine FailsIff.bind_succeeds (Entries.text_succeeds htype (fun _ => IsTextLike.isText))
      (fun type => ?_)
    have htextless : x.hasText = false ↔ (Value.map es).IsTextlessConstant := by
      refine ⟨fun h => ⟨htag, x, hx, h⟩, ?_⟩
      rintro ⟨-, y, hy, h⟩
      cases hx.symm.trans hy
      exact h
    rw [field?_map] at hx
    simp only [hx]
    refine FailsIff.congr ?_ htextless
    exact (readLiteral_failsIff x).bind_right (fun literal => Succeeds.ok _)
  | enumValue => exact FailsIff.of_not (hother (by decide)) (Succeeds.ok _)
  | method =>
    obtain ⟨-, hreturn, hparams, hkind⟩ := hbody
    refine FailsIff.of_not (hother (by decide)) ?_
    refine Succeeds.bind (Entries.text?_succeeds hreturn (fun _ => IsTextLike.isText))
      (fun type => ?_)
    refine Succeeds.bind (readParameters_succeeds hparams) (fun ps => ?_)
    refine Succeeds.bind (Entries.word_succeeds _ hkind (by decide)) (fun kind => ?_)
    exact Succeeds.ok _
  | constructor =>
    refine FailsIff.of_not (hother (by decide)) ?_
    refine Succeeds.bind (readParameters_succeeds hbody) (fun ps => ?_)
    exact Succeeds.ok _

/-! ### Types -/

lemma readDeclaration_failsIff {es : Entries} (h : (Value.map es).HasTypeHead) (source : String) :
    FailsIff (readDeclaration source es) (.document .tooManyDigits)
      (∃ m, (Value.map es).HasItem "members" m ∧ m.IsTextlessConstant) := by
  obtain ⟨l, hl, hitems, hform⟩ := Entries.items_eq_ok h.members
  have hmembers := (FailsIff.mapM (fun m hm => readMember_failsIff (hform m hm))).congr
    (exists_congr (fun m => and_congr_left (fun _ => hitems m)))
  rw [readDeclaration]
  refine FailsIff.bind_succeeds
    (Entries.text_succeeds h.name (fun _ => IsTextLike.isText)) (fun name => ?_)
  refine FailsIff.bind_succeeds (Entries.word_succeeds _ h.kind (by decide)) (fun kind => ?_)
  refine FailsIff.bind_succeeds (Entries.text?_succeeds h.base (fun _ => id)) (fun base => ?_)
  refine FailsIff.bind_of_eq hl ?_
  refine FailsIff.bind_right hmembers (fun ms => ?_)
  refine Succeeds.bind (Entries.text?_succeeds h.documentation (fun _ => id)) (fun doc => ?_)
  exact Succeeds.ok _

lemma readTypes_failsIff {ts : List Value} {inherited : String} {e : Crash}
    (h : ∀ t ∈ ts, FailsIff (readType inherited (TypeObject.ofValue t)) e t.HasTextlessConstant) :
    FailsIff (readTypes inherited (ts.map TypeObject.ofValue)) e
      (∃ t ∈ ts, t.HasTextlessConstant) := by
  induction ts with
  | nil => exact FailsIff.of_not (by simp) (Succeeds.ok [])
  | cons t rest ih =>
    rw [List.forall_mem_cons] at h
    rw [List.map_cons, readTypes]
    refine (h.1.bind (fun first => (ih h.2).bind_right (fun more => Succeeds.ok _))).congr ?_
    simp

/-- The type objects in that of a mapping are those of the values listed in it. -/
lemma TypeObject.exists_ofEntries_eq {es : Entries}
    (h : (Value.map es).Allows "nested_types" (fun x => ∃ items, x = .list items)) :
    ∃ ts : List Value, TypeObject.ofEntries es = ts.map TypeObject.ofValue ∧
      ∀ t, t ∈ ts ↔ (Value.map es).HasItem "nested_types" t := by
  rw [TypeObject.ofEntries_eq]
  cases hx : es.get? TypeObject.nestedKey with
  | none =>
    refine ⟨[], rfl, fun t => ?_⟩
    simp [HasItem, show es.get? "nested_types" = none from hx]
  | some x =>
    obtain ⟨items, rfl⟩ := h x hx
    refine ⟨items, TypeObject.ofItems_eq_map items, fun t => ?_⟩
    simp [HasItem, show es.get? "nested_types" = some (.list items) from hx]

/-- A type of the language is read, wherever it is nested, unless a constant has no text. -/
lemma readType_failsIff {v : Value} (h : v.IsType) (inherited : String) :
    FailsIff (readType inherited (TypeObject.ofValue v)) (.document .tooManyDigits)
      v.HasTextlessConstant := by
  induction h generalizing inherited with
  | @intro v head list nested ih =>
    obtain ⟨es, rfl⟩ := exists_map_of_field? head.name.choose_spec.1
    obtain ⟨ts, hts, hitems⟩ := TypeObject.exists_ofEntries_eq list
    have hnested : ∀ source, FailsIff (readTypes source (TypeObject.ofEntries es))
        (.document .tooManyDigits) (∃ t ∈ ts, t.HasTextlessConstant) := by
      intro source
      rw [hts]
      refine readTypes_failsIff (fun t ht => ?_)
      obtain ⟨items, hitems, ht⟩ := (hitems t).mp ht
      exact ih items hitems t ht source
    rw [TypeObject.ofValue, readType, hasTextlessConstant_iff]
    refine ((readDeclaration_failsIff head _).bind
      (fun decl => (hnested _).bind_right (fun _ => Succeeds.ok _))).congr (or_congr_right ?_)
    exact exists_congr (fun t => and_congr_left (fun _ => hitems t))

end DataContract
