/-
Types in types.

What holds of a type if it holds of the types nested in it holds of all types.
Pruning a type keeps what it declares, and below it leaves no excluded name.
-/
import DataContract.Model.ContractType
import Mathlib.Tactic.Common

namespace DataContract.ContractType

/-- A property of types holds if it passes from the nested ones to the one around them. -/
@[elab_as_elim]
theorem nestedInduction {motive : ContractType → Prop}
    (mk : ∀ d ns, (∀ t ∈ ns, motive t) → motive (.mk d ns)) : ∀ t, motive t
  | .mk d ns => mk d ns (fun t ht =>
      have hlt : sizeOf t < sizeOf (ContractType.mk d ns) := by
        have := List.sizeOf_lt_of_mem ht
        simp only [ContractType.mk.sizeOf_spec]
        omega
      nestedInduction mk t)
  termination_by t => sizeOf t

/-! ### Pruning -/

variable {excluded : String → Bool}

@[simp] lemma decl_prune (t : ContractType) : (t.prune excluded).decl = t.decl := by
  cases t
  rw [prune]
  rfl

@[simp] lemma name_prune (t : ContractType) : (t.prune excluded).name = t.name := by
  rw [name, name, decl_prune]

@[simp] lemma nested_prune (t : ContractType) :
    (t.prune excluded).nested = pruneAll excluded t.nested := by
  cases t
  rw [prune]
  rfl

lemma walk_eq_cons (t : ContractType) : t.walk = t :: walkAll t.nested := by
  cases t
  rw [walk]
  rfl

/-- The types within those of a list are the types within each of them. -/
lemma mem_walkAll {ns : List ContractType} {u : ContractType} :
    u ∈ walkAll ns ↔ ∃ t ∈ ns, u ∈ t.walk := by
  induction ns with
  | nil => simp [walkAll]
  | cons t rest ih => simp [walkAll, ih]

/-- Pruning takes the excluded types out of a list and prunes the others. -/
lemma pruneAll_eq_map_filter (ns : List ContractType) :
    pruneAll excluded ns =
      (ns.filter (fun n => !excluded n.name)).map (prune excluded) := by
  induction ns with
  | nil => rw [pruneAll]; rfl
  | cons t rest ih =>
    rw [pruneAll]
    cases hname : excluded t.name <;> simp [hname, ih]

/-- Types that are pruned one by one keep an excluded name nowhere. -/
lemma not_excluded_of_mem_walkAll {ns : List ContractType}
    (h : ∀ t ∈ ns, ∀ u ∈ walkAll (pruneAll excluded t.nested), excluded u.name = false) :
    ∀ u ∈ walkAll (pruneAll excluded ns), excluded u.name = false := by
  induction ns with
  | nil =>
    intro u hu
    rw [pruneAll, walkAll] at hu
    cases hu
  | cons t rest ih =>
    have hrest := ih (fun s hs => h s (List.mem_cons_of_mem t hs))
    rw [pruneAll]
    cases hname : excluded t.name with
    | true => simpa using hrest
    | false =>
      intro u hu
      simp only [Bool.false_eq_true, if_false, walkAll, walk_eq_cons, nested_prune,
        List.cons_append, List.mem_cons, List.mem_append] at hu
      obtain rfl | hu | hu := hu
      · rw [name_prune, hname]
      · exact h t (by simp) u hu
      · exact hrest u hu

/-- Below a type that is pruned no name is excluded. -/
lemma not_excluded_of_mem_prune (t : ContractType) :
    ∀ u ∈ walkAll (t.prune excluded).nested, excluded u.name = false := by
  rw [nested_prune]
  induction t using nestedInduction with
  | mk d ns ih => exact not_excluded_of_mem_walkAll ih

end DataContract.ContractType
