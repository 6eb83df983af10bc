/-
Excluding is pruning.

A nested type whose name is excluded is left out with all that is nested in it,
wherever it lies.  So generating a file without the excluded types is the same as
taking them out of the type and generating the file of what is left: the same
text, the same failure and the same notices.
-/
import DataContract.Java.Limit
import DataContract.Proofs.Model.Nesting

namespace DataContract.Java

namespace Dialect

variable (x : Dialect) (excluded : String → Bool)

/-- The types of a list without the excluded ones, if what is nested in them is pruned alike. -/
lemma types_eq_types_pruneAll {ns : List ContractType}
    (h : ∀ t ∈ ns, x.type excluded true t = x.type (fun _ => false) true (t.prune excluded)) :
    x.types excluded ns = x.types (fun _ => false) (ContractType.pruneAll excluded ns) := by
  induction ns with
  | nil => rw [types, ContractType.pruneAll, types]
  | cons t rest ih =>
    have hrest := ih (fun s hs => h s (List.mem_cons_of_mem t hs))
    rw [types, ContractType.pruneAll]
    cases excluded t.name with
    | true =>
      -- the excluded type is skipped on one side and not there on the other
      rw [if_pos rfl, if_pos rfl]
      exact hrest
    | false =>
      rw [if_neg Bool.false_ne_true, if_neg Bool.false_ne_true, types, if_neg Bool.false_ne_true,
        h t (by simp), hrest]

/-- Drafting a type without the excluded ones is drafting the pruned type. -/
lemma type_eq_type_prune (t : ContractType) (isNested : Bool) :
    x.type excluded isNested t = x.type (fun _ => false) isNested (t.prune excluded) := by
  induction t using ContractType.nestedInduction generalizing isNested with
  | mk d ns ih =>
    have hns := x.types_eq_types_pruneAll excluded (fun t ht => ih t ht true)
    rw [ContractType.prune, type, type, hns]

end Dialect

namespace Writer

/-- **Excluding names is pruning.**  The file of a type without the excluded ones is the file of
the pruned type: what comes of it, the notices on the way and what keeps it from being written are
the same.  A pruned type declares what it did before, whether or not its own name is excluded, and
has the pruned types that were nested in it, except the excluded ones; so there is no excluded name
below it. -/
theorem emit_eq_emit_prune (w : Writer) (config : Config) (excluded : String → Bool)
    (t : ContractType) :
    w.emit config excluded t = w.emit config (fun _ => false) (t.prune excluded) ∧
      w.obstacle? config excluded t = w.obstacle? config (fun _ => false) (t.prune excluded) ∧
      (t.prune excluded).decl = t.decl ∧
      (t.prune excluded).nested =
        (t.nested.filter (fun n => !excluded n.name)).map (ContractType.prune excluded) ∧
      ∀ u ∈ ContractType.walkAll (t.prune excluded).nested, excluded u.name = false := by
  have htype := w.toDialect.type_eq_type_prune excluded t false
  refine ⟨?_, ?_, ContractType.decl_prune t, ?_, ContractType.not_excluded_of_mem_prune t⟩
  · rw [emit, emit, ← htype, ContractType.decl_prune, ContractType.name_prune]
  · rw [obstacle?, obstacle?, ← htype, ContractType.decl_prune]
  · rw [ContractType.nested_prune, ContractType.pruneAll_eq_map_filter]

end Writer

end DataContract.Java
