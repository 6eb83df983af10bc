/-
What drafting collects and when it fails.

A draft maps references one after another.  It fails exactly if one of them has
no Java type, with the failure of the first such reference; otherwise it imports
the names that it requires and what its references need.  This is said once for
each step and carried over to drafts that are put together.
-/
import DataContract.Java.Draft
import DataContract.Proofs.Java.TypeTable

namespace DataContract.Java

/-- What stands on the right of related lists has a partner on the left. -/
lemma exists_left_of_forall₂ {α β : Type} {R : α → β → Prop} {l : List α} {l' : List β}
    (h : List.Forall₂ R l l') : ∀ b ∈ l', ∃ a ∈ l, R a b := by
  induction h with
  | nil => simp
  | cons hab _ ih =>
    intro c hc
    obtain rfl | hc := List.mem_cons.mp hc
    · exact ⟨_, List.mem_cons_self, hab⟩
    · obtain ⟨a, ha, hac⟩ := ih c hc
      exact ⟨a, List.mem_cons_of_mem _ ha, hac⟩

lemma forall₂_filterMap {α β γ : Type} {R : α → β → Prop} {S : α → γ → Prop} {f : β → Option γ}
    {l : List α} {l' : List β} (h : List.Forall₂ R l l')
    (hf : ∀ a b, R a b → ∃ c, f b = some c ∧ S a c) : List.Forall₂ S l (l'.filterMap f) := by
  induction h with
  | nil => exact .nil
  | cons hab _ ih =>
    obtain ⟨c, hc, hac⟩ := hf _ _ hab
    rw [List.filterMap_cons_some hc]
    exact .cons hac ih

lemma filterMap_eq_nil_of_forall₂ {α β γ : Type} {R : α → β → Prop} {f : β → Option γ}
    {l : List α} {l' : List β} (h : List.Forall₂ R l l') (hf : ∀ a b, R a b → f b = none) :
    l'.filterMap f = [] := by
  rw [List.filterMap_eq_nil_iff]
  intro b hb
  obtain ⟨a, -, hab⟩ := exists_left_of_forall₂ h b hb
  exact hf a b hab

namespace Draft

/-! ### Drafts one after another -/

section Laws

variable {ε α β : Type} {x : Draft ε α} {f : α → Draft ε β}

lemma bind_of_ok {a : α} (h : x.outcome = .ok a) :
    x >>= f = ⟨(f a).outcome, x.imports ++ (f a).imports, x.notices ++ (f a).notices⟩ := by
  change Draft.bind x f = _
  rw [Draft.bind, h]

lemma bind_of_error {e : ε} (h : x.outcome = .error e) :
    x >>= f = ⟨.error e, x.imports, x.notices⟩ := by
  change Draft.bind x f = _
  rw [Draft.bind, h]

instance : LawfulMonad (Draft ε) := LawfulMonad.mk' (Draft ε)
  (by
    intro α x
    change Draft.bind x (fun a => Draft.pure a) = x
    obtain ⟨outcome, imports, notices⟩ := x
    cases outcome <;> simp [Draft.bind, Draft.pure])
  (by
    intro α β a f
    change Draft.bind (Draft.pure a) f = f a
    simp [Draft.bind, Draft.pure])
  (by
    intro α β γ x f g
    change Draft.bind (Draft.bind x f) g = Draft.bind x (fun a => Draft.bind (f a) g)
    obtain ⟨outcome, imports, notices⟩ := x
    cases outcome with
    | error e => simp [Draft.bind]
    | ok a =>
      cases hf : (f a).outcome with
      | error e => simp [Draft.bind, hf]
      | ok b => simp [Draft.bind, hf])

/-- A draft that succeeds has succeeded in both of its parts. -/
lemma bind_eq_ok {b : β} (h : (x >>= f).outcome = .ok b) :
    ∃ a, x.outcome = .ok a ∧ (f a).outcome = .ok b := by
  cases hx : x.outcome with
  | ok a =>
    rw [bind_of_ok hx] at h
    exact ⟨a, rfl, h⟩
  | error e =>
    rw [bind_of_error hx] at h
    cases h

/-- The results of drafts one after another are those of each of them. -/
lemma mapM_eq_ok {items : List α} {results : List β} (h : (items.mapM f).outcome = .ok results) :
    List.Forall₂ (fun a b => (f a).outcome = .ok b) items results := by
  induction items generalizing results with
  | nil =>
    cases h
    exact .nil
  | cons a rest ih =>
    rw [List.mapM_cons] at h
    obtain ⟨b, hb, h⟩ := bind_eq_ok h
    obtain ⟨bs, hbs, h⟩ := bind_eq_ok h
    cases h
    exact .cons hb (ih hbs)

end Laws

/-! ### Collecting -/

/-- A draft collects names and maps references: it fails as the first reference without a Java
type does, and if there is none, then it imports the names and what the references need. -/
structure Collects {α : Type} (t : TypeTable) (x : Draft UnsupportedType α)
    (names : List String) (refs : List Reference) : Prop where
  error_iff : ∀ e, x.outcome = .error e ↔ refs.findSome? t.unsupported? = some e
  mem_imports : ∀ a, x.outcome = .ok a →
    ∀ n, n ∈ x.imports ↔ n ∈ names ∨ ∃ r ∈ refs, t.importOf? r = some n

namespace Collects

variable {α β : Type} {t : TypeTable}

lemma findSome?_eq_none {x : Draft UnsupportedType α} {names : List String}
    {refs : List Reference} (h : Collects t x names refs) {a : α} (ha : x.outcome = .ok a) :
    refs.findSome? t.unsupported? = none := by
  rw [Option.eq_none_iff_forall_ne_some]
  intro e he
  rw [← h.error_iff, ha] at he
  cases he

lemma congr {x : Draft UnsupportedType α} {names names' : List String}
    {refs refs' : List Reference} (h : Collects t x names refs) (hnames : names = names')
    (hrefs : refs = refs') : Collects t x names' refs' := by
  rw [← hnames, ← hrefs]
  exact h

lemma pure (a : α) : Collects t (Pure.pure a) [] [] := by
  refine ⟨fun e => ?_, fun b hb n => ?_⟩
  · change Except.ok a = Except.error e ↔ _
    simp
  · change n ∈ [] ↔ _
    simp

lemma require (names : List String) : Collects t (Draft.require names) names [] := by
  refine ⟨fun e => ?_, fun b hb n => ?_⟩
  · simp [Draft.require]
  · simp [Draft.require]

lemma notify (notice : Notice) : Collects t (Draft.notify notice) [] [] := by
  refine ⟨fun e => ?_, fun b hb n => ?_⟩
  · simp [Draft.notify]
  · simp [Draft.notify]

lemma typeOf (r : TypeRef) (member : String) :
    Collects t (Draft.typeOf t r member) [] [⟨r, member⟩] := by
  cases hmap : t.mapRef r member with
  | ok mapped =>
    refine ⟨fun e => ?_, fun b hb n => ?_⟩
    · simp [Draft.typeOf, TypeTable.unsupported?, hmap]
    · simp [Draft.typeOf, TypeTable.importOf?, hmap]
  | error e =>
    refine ⟨fun e' => ?_, fun b hb n => ?_⟩
    · simp [Draft.typeOf, TypeTable.unsupported?, hmap]
    · simp [Draft.typeOf, hmap] at hb

/-- What one draft collects after another. -/
lemma bind {x : Draft UnsupportedType α} {f : α → Draft UnsupportedType β}
    {names names' : List String} {refs refs' : List Reference} (hx : Collects t x names refs)
    (hf : ∀ a, Collects t (f a) names' refs') :
    Collects t (x >>= f) (names ++ names') (refs ++ refs') := by
  cases hout : x.outcome with
  | error e =>
    -- the first part has failed, so the second one is not reached
    have hfirst := (hx.error_iff e).mp hout
    rw [bind_of_error hout]
    refine ⟨fun e' => ?_, fun b hb => ?_⟩
    · simp [List.findSome?_append, hfirst]
    · cases hb
  | ok a =>
    have hnone := hx.findSome?_eq_none hout
    rw [bind_of_ok hout]
    refine ⟨fun e => ?_, fun b hb n => ?_⟩
    · rw [List.findSome?_append, hnone, Option.none_or]
      exact (hf a).error_iff e
    · rw [List.mem_append, hx.mem_imports a hout, (hf a).mem_imports b hb]
      simp only [List.mem_append, or_and_right, exists_or]
      exact or_or_or_comm

/-- What a draft for each member of a list collects. -/
lemma mapM {f : α → Draft UnsupportedType β} {refs : α → List Reference} {l : List α}
    (h : ∀ a ∈ l, Collects t (f a) [] (refs a)) :
    Collects t (l.mapM f) [] (l.flatMap refs) := by
  induction l with
  | nil => exact pure []
  | cons a rest ih =>
    rw [List.mapM_cons, List.flatMap_cons]
    have hrest := ih (fun b hb => h b (by simp [hb]))
    exact (bind (h a (by simp)) (fun b => bind hrest (fun bs => pure (b :: bs)))).congr
      (by simp) (by simp)

end Collects

end Draft

end DataContract.Java
