/-
Work that succeeds, and work that fails in one way.

Work in steps succeeds if every step does, and then each step has a result that
the next one goes on with.  If all steps that can fail do so for one cause, then
so does the whole, and exactly if one of them does.
-/
import DataContract.Failure
import Mathlib.Tactic.Common

namespace DataContract

/-- A computation gives a result. -/
def Succeeds {ε α : Type} (x : Except ε α) : Prop := ∃ a, x = .ok a

namespace Succeeds

variable {ε α β : Type}

lemma ok (a : α) : Succeeds (.ok a : Except ε α) := ⟨a, rfl⟩

lemma of_isOk {x : Except ε α} (h : x.isOk = true) : Succeeds x := by
  cases x with
  | ok a => exact ok a
  | error e => cases h

lemma bind {x : Except ε α} {f : α → Except ε β} (hx : Succeeds x)
    (hf : ∀ a, Succeeds (f a)) : Succeeds (x >>= f) := by
  obtain ⟨a, rfl⟩ := hx
  exact hf a

/-- What comes after a computation whose result is known. -/
lemma bind_of_eq {x : Except ε α} {f : α → Except ε β} {a : α} (hx : x = .ok a)
    (hf : Succeeds (f a)) : Succeeds (x >>= f) := by
  subst hx
  exact hf

lemma map {x : Except ε α} (f : α → β) (hx : Succeeds x) : Succeeds (x.map f) := by
  obtain ⟨a, rfl⟩ := hx
  exact ⟨f a, rfl⟩

lemma mapM {f : α → Except ε β} {l : List α} (h : ∀ a ∈ l, Succeeds (f a)) :
    Succeeds (l.mapM f) := by
  induction l with
  | nil => exact ⟨[], rfl⟩
  | cons a rest ih =>
    rw [List.mapM_cons]
    refine bind (h a (by simp)) (fun b => ?_)
    exact bind (ih (fun c hc => h c (by simp [hc]))) (fun bs => ⟨b :: bs, rfl⟩)

end Succeeds

/-- A computation fails exactly under a condition, and then for one cause. -/
structure FailsIff {ε α : Type} (x : Except ε α) (e : ε) (P : Prop) : Prop where
  fails : P → x = .error e
  succeeds : ¬ P → Succeeds x

namespace FailsIff

variable {ε α β : Type} {x : Except ε α} {f : α → Except ε β} {e : ε} {P Q : Prop}

lemma of_not (hP : ¬ P) (hx : Succeeds x) : FailsIff x e P :=
  ⟨fun h => absurd h hP, fun _ => hx⟩

lemma congr (h : FailsIff x e P) (hPQ : P ↔ Q) : FailsIff x e Q :=
  ⟨fun hQ => h.fails (hPQ.mpr hQ), fun hQ => h.succeeds (fun hP => hQ (hPQ.mp hP))⟩

lemma error_iff (h : FailsIff x e P) {e' : ε} : x = .error e' ↔ e' = e ∧ P := by
  constructor
  · intro hx
    by_cases hP : P
    · exact ⟨Except.error.inj (hx.symm.trans (h.fails hP)), hP⟩
    · obtain ⟨a, ha⟩ := h.succeeds hP
      cases ha.symm.trans hx
  · rintro ⟨rfl, hP⟩
    exact h.fails hP

lemma mapError {ε' : Type} (h : FailsIff x e P) (g : ε → ε') : FailsIff (x.mapError g) (g e) P := by
  refine ⟨fun hP => by rw [h.fails hP]; rfl, fun hP => ?_⟩
  obtain ⟨a, ha⟩ := h.succeeds hP
  exact ⟨a, by rw [ha]; rfl⟩

lemma bind (hx : FailsIff x e P) (hf : ∀ a, FailsIff (f a) e Q) : FailsIff (x >>= f) e (P ∨ Q) := by
  by_cases hP : P
  · rw [hx.fails hP]
    exact ⟨fun _ => rfl, fun h => absurd (.inl hP) h⟩
  · obtain ⟨a, ha⟩ := hx.succeeds hP
    rw [ha]
    exact (hf a).congr ⟨.inr, fun h => h.resolve_left hP⟩

lemma bind_of_eq {a : α} (hx : x = .ok a) (hf : FailsIff (f a) e Q) : FailsIff (x >>= f) e Q := by
  subst hx
  exact hf

/-- What comes after work that succeeds. -/
lemma bind_succeeds (hx : Succeeds x) (hf : ∀ a, FailsIff (f a) e Q) : FailsIff (x >>= f) e Q := by
  obtain ⟨a, rfl⟩ := hx
  exact hf a

/-- Nothing that comes after it fails. -/
lemma bind_right (hx : FailsIff x e P) (hf : ∀ a, Succeeds (f a)) : FailsIff (x >>= f) e P :=
  (hx.bind (fun a => of_not not_false (hf a))).congr (by simp)

lemma mapM {l : List α} {R : α → Prop} (h : ∀ a ∈ l, FailsIff (f a) e (R a)) :
    FailsIff (l.mapM f) e (∃ a ∈ l, R a) := by
  induction l with
  | nil => exact of_not (by simp) ⟨[], rfl⟩
  | cons a rest ih =>
    rw [List.forall_mem_cons] at h
    rw [List.mapM_cons]
    refine (h.1.bind (fun b => (ih h.2).bind_right (fun bs => ⟨b :: bs, rfl⟩))).congr ?_
    simp

end FailsIff

/-! ### The results of the steps -/

section Steps

variable {ε ε' α β : Type} {x : Except ε α}

lemma bind_eq_ok {f : α → Except ε β} {b : β} (h : x >>= f = .ok b) :
    ∃ a, x = .ok a ∧ f a = .ok b := by
  cases x with
  | ok a => exact ⟨a, rfl, h⟩
  | error e => cases h

lemma bind_eq_error_iff {f : α → Except ε β} {e : ε} :
    x >>= f = .error e ↔ x = .error e ∨ ∃ a, x = .ok a ∧ f a = .error e := by
  cases x with
  | ok a => exact ⟨fun h => .inr ⟨a, rfl, h⟩, by rintro (h | ⟨_, h, hf⟩) <;> cases h; exact hf⟩
  | error e' =>
    refine ⟨fun h => .inl ?_, ?_⟩
    · cases h
      rfl
    · rintro (h | ⟨a, h, -⟩)
      · cases h
        rfl
      · cases h

lemma bind_of_ok {f : α → Except ε β} {a : α} (h : x = .ok a) : x >>= f = f a := by
  subst h
  rfl

lemma mapError_bind_of_ok {g : ε → ε'} {f : α → Except ε' β} {a : α} (h : x = .ok a) :
    x.mapError g >>= f = f a := by
  subst h
  rfl

lemma mapError_bind_of_error {g : ε → ε'} {f : α → Except ε' β} {e : ε} (h : x = .error e) :
    x.mapError g >>= f = .error (g e) := by
  subst h
  rfl

lemma eq_ok_of_toOption {a : α} (h : x.toOption = some a) : x = .ok a := by
  cases x with
  | ok b =>
    cases h
    rfl
  | error e => cases h

/-- The results of a list come one by one from its items. -/
lemma mapM_eq_ok {f : α → Except ε β} {l : List α} {bs : List β} (h : l.mapM f = .ok bs) :
    List.Forall₂ (fun a b => f a = .ok b) l bs := by
  induction l generalizing bs with
  | nil =>
    cases h
    exact .nil
  | cons a rest ih =>
    rw [List.mapM_cons] at h
    obtain ⟨b, hb, h⟩ := bind_eq_ok h
    obtain ⟨others, hothers, h⟩ := bind_eq_ok h
    cases h
    exact .cons hb (ih hothers)

/-- Work on a list of which no item fails. -/
lemma mapM_of_forall_ok {f : α → Except ε β} {g : α → β} {l : List α}
    (h : ∀ a ∈ l, f a = .ok (g a)) : l.mapM f = .ok (l.map g) := by
  induction l with
  | nil => rfl
  | cons a rest ih =>
    rw [List.forall_mem_cons] at h
    rw [List.mapM_cons, bind_of_ok h.1, ih h.2]
    rfl

/-- Work on a list gives changed results if that on each of its items does. -/
lemma mapM_eq_map {γ : Type} {f : α → Except ε β} {g : α → Except ε γ} {k : β → γ} {l : List α}
    (h : ∀ a ∈ l, g a = (f a).map k) : l.mapM g = (l.mapM f).map (List.map k) := by
  induction l with
  | nil => rfl
  | cons a rest ih =>
    rw [List.forall_mem_cons] at h
    rw [List.mapM_cons, List.mapM_cons, h.1, ih h.2]
    cases f a with
    | error e => rfl
    | ok b => cases rest.mapM f <;> rfl

lemma mapError_eq_ok {f : ε → ε'} {a : α} (h : x.mapError f = .ok a) : x = .ok a := by
  cases x with
  | ok b =>
    cases h
    rfl
  | error e => cases h

end Steps

end DataContract
