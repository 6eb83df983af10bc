/-
The type objects of a document, in document order.

A type object is met before those nested in it.  Each one is found once, by the
indices that lead to it, and every way that leads to a type object leads to one
that is found.
-/
import DataContract.Proofs.Model.Structure
import DataContract.Proofs.Schema.Places
import Mathlib.Data.List.Lex

namespace DataContract

namespace Value

lemma sizeOf_lt_of_mem_itemsOf {v u : Value} {name : String} (h : u ∈ v.itemsOf name) :
    sizeOf u < sizeOf v := by
  have hitems := field?_of_mem_itemsOf h
  obtain ⟨es, rfl⟩ := exists_map_of_field? hitems
  have hentry := List.sizeOf_lt_of_mem (Entries.mem_of_get? hitems)
  have hitem := List.sizeOf_lt_of_mem h
  simp only [Prod.mk.sizeOf_spec, Value.list.sizeOf_spec] at hentry
  simp only [Value.map.sizeOf_spec]
  omega

/-- A property of values holds if it passes from the type objects nested in a value to the value. -/
@[elab_as_elim]
theorem nestedTypeInduction {motive : Value → Prop}
    (step : ∀ v : Value, (∀ u ∈ v.itemsOf "nested_types", motive u) → motive v) (v : Value) :
    motive v := by
  induction hn : sizeOf v using Nat.strongRecOn generalizing v with
  | ind n ih =>
    subst hn
    exact step v (fun u hu => ih _ (sizeOf_lt_of_mem_itemsOf hu) u rfl)

end Value

/-- The type objects nested in that of a value are those of the listed values. -/
lemma TypeObject.nested_ofValue_eq_map (v : Value) :
    (TypeObject.ofValue v).nested = (v.itemsOf "nested_types").map TypeObject.ofValue := by
  cases hfield : v.field? "nested_types" with
  | none =>
    rw [nested_ofValue, Value.itemsOf_of_none hfield, show v.field? TypeObject.nestedKey = none
      from hfield]
    rfl
  | some x =>
    cases x with
    | list items => rw [nested_ofValue_of_list hfield, Value.itemsOf_of_list hfield]
    | _ =>
      rw [nested_ofValue, Value.itemsOf, hfield, show v.field? TypeObject.nestedKey = _
        from hfield]
      rfl

/-- A type object where it stands in a document. -/
structure TypeSite where
  /-- The indices that lead to it from the type at the top. -/
  indices : List Nat
  object : Value
  /-- The type objects around it, the innermost one first. -/
  containers : List Value

namespace Value

/-- The type objects in one that stands somewhere, itself first, each before those nested in it. -/
def typeSitesFrom (indices : List Nat) (containers : List Value) (v : Value) : List TypeSite :=
  ⟨indices, v, containers⟩ ::
    (v.itemsOf "nested_types").zipIdx.attach.flatMap (fun e =>
      typeSitesFrom (indices ++ [e.1.2]) (v :: containers) e.1.1)
  termination_by sizeOf v
  decreasing_by exact sizeOf_lt_of_mem_itemsOf (List.fst_mem_of_mem_zipIdx e.2)

/-- The type objects in one at the top. -/
def typeSites (v : Value) : List TypeSite := typeSitesFrom [] [] v

lemma typeSitesFrom_eq (indices : List Nat) (containers : List Value) (v : Value) :
    typeSitesFrom indices containers v =
      ⟨indices, v, containers⟩ :: (v.itemsOf "nested_types").zipIdx.flatMap (fun e =>
        typeSitesFrom (indices ++ [e.2]) (v :: containers) e.1) := by
  rw [typeSitesFrom]
  refine congrArg _ ((List.flatMap_subtype (fun e _ => ?_)).trans (by rw [List.unattach_attach]))
  rfl

variable {indices : List Nat} {containers : List Value} {v : Value}

/-- The indices of a type object lead to it. -/
lemma at?_of_mem_typeSitesFrom {s : TypeSite} (h : s ∈ typeSitesFrom indices containers v) :
    ∃ js, s.indices = indices ++ js ∧ v.at? (Location.toNested js) = some s.object := by
  induction v using nestedTypeInduction generalizing indices containers with
  | step v ih =>
    rw [typeSitesFrom_eq, List.mem_cons, List.mem_flatMap] at h
    obtain rfl | ⟨⟨u, j⟩, hu, hs⟩ := h
    · exact ⟨[], by simp, rfl⟩
    · obtain ⟨js, hindices, hobject⟩ := ih u (List.fst_mem_of_mem_zipIdx hu) hs
      refine ⟨j :: js, by simp [hindices], ?_⟩
      have hj := List.mk_mem_zipIdx_iff_getElem?.mp hu
      rw [Location.toNested, List.flatMap_cons, at?_item_append, hj]
      exact hobject

/-- A type object that indices lead to is met. -/
lemma exists_mem_typeSitesFrom {js : List Nat} {u : Value}
    (h : v.at? (Location.toNested js) = some u) :
    ∃ s ∈ typeSitesFrom indices containers v, s.indices = indices ++ js ∧ s.object = u := by
  induction js generalizing v indices containers with
  | nil =>
    cases h
    refine ⟨⟨indices, u, containers⟩, ?_, by simp, rfl⟩
    rw [typeSitesFrom_eq]
    exact List.mem_cons_self
  | cons j js ih =>
    rw [Location.toNested, List.flatMap_cons, at?_item_append] at h
    obtain ⟨w, hw, hu⟩ := Option.bind_eq_some_iff.mp h
    obtain ⟨s, hs, hindices, hobject⟩ := ih hu
    refine ⟨s, ?_, ?_, hobject⟩
    · rw [typeSitesFrom_eq]
      refine List.mem_cons_of_mem _ (List.mem_flatMap.mpr ⟨(w, j), ?_, hs⟩)
      exact List.mk_mem_zipIdx_iff_getElem?.mpr hw
    · rw [hindices, List.append_assoc]
      rfl

/-- Type objects are met in the order of their indices. -/
lemma typeSitesFrom_pairwise (indices : List Nat) (containers : List Value) (v : Value) :
    (typeSitesFrom indices containers v).Pairwise (fun s t =>
      List.Lex (· < ·) s.indices t.indices) := by
  induction v using nestedTypeInduction generalizing indices containers with
  | step v ih =>
    -- what is nested under an index has indices that go on with it
    have hbelow : ∀ e ∈ (v.itemsOf "nested_types").zipIdx,
        ∀ s ∈ typeSitesFrom (indices ++ [e.2]) (v :: containers) e.1,
          ∃ js, s.indices = indices ++ e.2 :: js := by
      intro e _ s hs
      obtain ⟨js, hjs, -⟩ := at?_of_mem_typeSitesFrom hs
      exact ⟨js, by simp [hjs]⟩
    rw [typeSitesFrom_eq, List.pairwise_cons, List.pairwise_flatMap]
    refine ⟨?_, ?_, ?_⟩
    · intro s hs
      obtain ⟨e, he, hs⟩ := List.mem_flatMap.mp hs
      obtain ⟨js, hjs⟩ := hbelow e he s hs
      have hlex := List.Lex.append_left (· < ·) (List.Lex.nil (a := e.2) (l := js)) indices
      rwa [List.append_nil, ← hjs] at hlex
    · intro e he
      exact ih e.1 (List.fst_mem_of_mem_zipIdx he) _ _
    · have hsorted : (v.itemsOf "nested_types").zipIdx.Pairwise (fun a b => a.2 < b.2) := by
        rw [← List.pairwise_map, List.zipIdx_map_snd]
        exact List.pairwise_lt_range'
      refine hsorted.imp_of_mem (fun {a b} ha hb hlt s hs t ht => ?_)
      obtain ⟨js, hjs⟩ := hbelow a ha s hs
      obtain ⟨ks, hks⟩ := hbelow b hb t ht
      rw [hjs, hks]
      exact List.Lex.append_left (· < ·) (List.Lex.rel hlt) indices

/-- The type objects in one at the top are what its indices lead to. -/
lemma mem_typeSites_iff {js : List Nat} {u : Value} :
    (∃ s ∈ v.typeSites, s.indices = js ∧ s.object = u) ↔
      v.at? (Location.toNested js) = some u := by
  constructor
  · rintro ⟨s, hs, rfl, rfl⟩
    obtain ⟨js, hindices, hobject⟩ := at?_of_mem_typeSitesFrom hs
    rw [hindices]
    exact hobject
  · exact exists_mem_typeSitesFrom

end Value

end DataContract
