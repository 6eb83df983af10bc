/-
The notices of drafts.

Two drafts that agree come to the same result with the same imports, and they
agree on notices of a kind if these are the same too.  A draft that succeeds has
given certain notices of a kind.  Both are said once for each step and carried
over to drafts that are put together.
-/
import DataContract.Proofs.Java.Drafting

namespace DataContract.Java.Draft

variable {ε α β : Type} {kind : Notice → Bool}

/-! ### Two drafts -/

/-- Two drafts come to the same, with the same imports and the same notices of a kind. -/
structure AgreeOn (kind : Notice → Bool) (x y : Draft ε α) : Prop where
  outcome : x.outcome = y.outcome
  imports : x.imports = y.imports
  notices : x.notices.filter kind = y.notices.filter kind

namespace AgreeOn

lemma refl (x : Draft ε α) : AgreeOn kind x x := ⟨rfl, rfl, rfl⟩

/-- Drafts one after another agree if both parts do. -/
lemma bind {x y : Draft ε α} {f g : α → Draft ε β} (hxy : AgreeOn kind x y)
    (hfg : ∀ a, AgreeOn kind (f a) (g a)) : AgreeOn kind (x >>= f) (y >>= g) := by
  cases hx : x.outcome with
  | error e =>
    -- neither draft goes on
    have hy : y.outcome = .error e := hxy.outcome ▸ hx
    rw [bind_of_error hx, bind_of_error hy]
    exact ⟨rfl, hxy.imports, hxy.notices⟩
  | ok a =>
    have hy : y.outcome = .ok a := hxy.outcome ▸ hx
    rw [bind_of_ok hx, bind_of_ok hy]
    refine ⟨(hfg a).outcome, ?_, ?_⟩
    · rw [hxy.imports, (hfg a).imports]
    · rw [List.filter_append, List.filter_append, hxy.notices, (hfg a).notices]

/-- Drafts for the members of two lists agree if those for partners do. -/
lemma mapM {f g : α → Draft ε β} {l l' : List α}
    (h : List.Forall₂ (fun a b => AgreeOn kind (f a) (g b)) l l') :
    AgreeOn kind (l.mapM f) (l'.mapM g) := by
  induction h with
  | nil => exact refl _
  | cons hab _ ih =>
    rw [List.mapM_cons, List.mapM_cons]
    exact hab.bind (fun b => ih.bind (fun bs => refl _))

end AgreeOn

/-! ### One draft -/

/-- A draft that succeeds has given these notices of a kind. -/
def Notifies (kind : Notice → Bool) (x : Draft ε α) (l : List Notice) : Prop :=
  ∀ a, x.outcome = .ok a → x.notices.filter kind = l

namespace Notifies

lemma congr {x : Draft ε α} {l l' : List Notice} (h : Notifies kind x l) (hl : l = l') :
    Notifies kind x l' :=
  hl ▸ h

lemma pure (a : α) : Notifies kind (Pure.pure a : Draft ε α) [] :=
  fun _ _ => rfl

lemma require (names : List String) : Notifies kind (Draft.require names : Draft ε Unit) [] :=
  fun _ _ => rfl

lemma typeOf (t : TypeTable) (r : TypeRef) (member : String) :
    Notifies kind (Draft.typeOf t r member) [] := by
  intro a _
  rw [Draft.typeOf]
  cases t.mapRef r member <;> rfl

lemma notify {n : Notice} (h : kind n = false) :
    Notifies kind (Draft.notify n : Draft ε Unit) [] := by
  intro a _
  simp [Draft.notify, h]

/-- What drafts one after another give. -/
lemma bind {x : Draft ε α} {f : α → Draft ε β} {l l' : List Notice} (hx : Notifies kind x l)
    (hf : ∀ a, Notifies kind (f a) l') : Notifies kind (x >>= f) (l ++ l') := by
  intro b hb
  obtain ⟨a, ha, hb⟩ := bind_eq_ok hb
  rw [bind_of_ok ha, List.filter_append, hx a ha, hf a b hb]

/-- What a draft for each member of a list gives. -/
lemma mapM {f : α → Draft ε β} {notices : α → List Notice} {l : List α}
    (h : ∀ a ∈ l, Notifies kind (f a) (notices a)) :
    Notifies kind (l.mapM f) (l.flatMap notices) := by
  induction l with
  | nil => exact pure []
  | cons a rest ih =>
    rw [List.forall_mem_cons] at h
    rw [List.mapM_cons, List.flatMap_cons]
    exact (h.1.bind (fun b => (ih h.2).bind (fun bs => pure (b :: bs)))).congr (by simp)

lemma mapM_nil {f : α → Draft ε β} {l : List α} (h : ∀ a ∈ l, Notifies kind (f a) []) :
    Notifies kind (l.mapM f) [] :=
  (mapM h).congr (List.flatMap_eq_nil_iff.mpr (fun _ _ => rfl))

end Notifies

end DataContract.Java.Draft
