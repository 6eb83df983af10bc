/-
The issues of a value, part by part.

The issues of a list are those of its items and the issues of a mapping are
those of its entries, each in order.  What an issue says depends on the part
alone, and where it is starts with the place of the whole; in particular it does
not depend on the place whether there are issues at all.
-/
import DataContract.Proofs.Value.Json
import DataContract.Schema.Check
import Mathlib.Data.List.Basic

namespace DataContract

/-- The issue as it is found if the document is a part of another one. -/
def Issue.below (outer : Location) (i : Issue) : Issue :=
  ⟨outer ++ i.location, i.problem⟩

namespace Schema

/-! ### The parts -/

/-- The issues of an item of a list. -/
def issuesOfItem (item : Schema) (place : Location) (v : Value) : List Issue :=
  match item with
  | .variant options =>
    match select options v place with
    | .ok s => issues s place v
    | .error issue => [issue]
  | s => issues s place v

lemma itemIssues_cons (item : Schema) (place : Location) (index : Nat) (v : Value)
    (rest : List Value) :
    itemIssues item place index (v :: rest) =
      issuesOfItem item (place ++ [.item index]) v ++ itemIssues item place (index + 1) rest := by
  cases item with
  | variant options => rw [itemIssues]; rfl
  | _ => rw [itemIssues] <;> simp [issuesOfItem]

/-- The issues of a list are those of its items, in order. -/
lemma itemIssues_eq_flatMap (item : Schema) (place : Location) (index : Nat)
    (items : List Value) :
    itemIssues item place index items =
      (items.zipIdx index).flatMap (fun e => issuesOfItem item (place ++ [.item e.2]) e.1) := by
  induction items generalizing index with
  | nil => rw [itemIssues]; rfl
  | cons v rest ih => rw [itemIssues_cons, ih, List.zipIdx_cons, List.flatMap_cons]

/-- The issues of a mapping are those of its entries, in order. -/
lemma entryIssues_eq_flatMap (named : List (String × Schema)) (place : Location)
    (es : List (Value × Value)) :
    entryIssues named place es = es.flatMap (oneEntryIssues named place) := by
  induction es with
  | nil => rw [entryIssues]; rfl
  | cons e rest ih => rw [entryIssues, ih, List.flatMap_cons]

lemma issues_of_other (s : Schema) (place : Location) {v : Value}
    (hlist : ∀ items, v ≠ .list items) (hmap : ∀ es, v ≠ .map es) :
    issues s place v = scalarIssues s.resolve v place := by
  rw [issues]
  · exact hlist
  · exact hmap

/-! ### Locality -/

section Locality

variable (outer place : Location)

lemma wrongType_below (s : Schema) (v : Value) :
    wrongType s v (outer ++ place) = (wrongType s v place).map (Issue.below outer) := rfl

lemma textIssues_below (rule : TextRule) (written : String) :
    textIssues rule written (outer ++ place) =
      (textIssues rule written place).map (Issue.below outer) := by
  rw [textIssues, textIssues, List.map_append]
  congr 1
  · cases rule.minLength with
    | none => rfl
    | some least => by_cases hshort : written.length < least <;> simp [hshort, Issue.below]
  · cases rule.pattern with
    | none => rfl
    | some p => by_cases hfits : p.fits written = true <;> simp [hfits, Issue.below]

lemma scalarIssues_below (s : Schema) (v : Value) :
    scalarIssues s v (outer ++ place) = (scalarIssues s v place).map (Issue.below outer) := by
  rw [scalarIssues.eq_def, scalarIssues.eq_def]
  split
  · exact textIssues_below outer place _ _
  · split <;> rfl
  · rfl
  · rfl

lemma missingIssues_below (required : List String) (es : Entries) :
    missingIssues required es (outer ++ place) =
      (missingIssues required es place).map (Issue.below outer) := by
  rw [missingIssues, missingIssues, List.map_map]
  rfl

lemma select_below (options : List (String × Schema)) (v : Value) :
    select options v (outer ++ place) =
      (select options v place).mapError (Issue.below outer) := by
  cases v with
  | map es =>
    cases htag : Entries.get? es discriminator with
    | none => simp only [select, htag]; rfl
    | some tag =>
      cases hoption : options.find? (fun o => tag.isStr o.1) with
      | none => simp [select, htag, hoption, Except.mapError, Issue.below]
      | some o => simp only [select, htag, hoption]; rfl
  | _ => rfl

lemma issuesOfItem_below {v : Value}
    (hv : ∀ s place, issues s (outer ++ place) v = (issues s place v).map (Issue.below outer))
    (item : Schema) :
    issuesOfItem item (outer ++ place) v =
      (issuesOfItem item place v).map (Issue.below outer) := by
  cases item with
  | variant options =>
    rw [issuesOfItem, issuesOfItem, select_below]
    cases select options v place with
    | ok s => exact hv s place
    | error issue => rfl
  | _ => exact hv _ place

end Locality

/-- The issues of a part of a document are those that the part has as a document, below its
place. -/
theorem issues_below (outer : Location) (s : Schema) (place : Location) (v : Value) :
    issues s (outer ++ place) v = (issues s place v).map (Issue.below outer) := by
  induction v using Value.partsInduction generalizing s place with
  | list items ih =>
    rw [issues, issues]
    split
    · rename_i item _
      rw [itemIssues_eq_flatMap, itemIssues_eq_flatMap, List.map_flatMap]
      refine List.flatMap_congr (fun e he => ?_)
      rw [List.append_assoc]
      exact issuesOfItem_below outer _ (ih e.1 (List.fst_mem_of_mem_zipIdx he)) item
    · exact wrongType_below outer place _ _
  | map es ih =>
    rw [issues, issues]
    split
    · rename_i required named _
      rw [missingIssues_below, List.map_append, entryIssues_eq_flatMap, entryIssues_eq_flatMap,
        List.map_flatMap]
      refine congrArg _ (List.flatMap_congr (fun e he => ?_))
      obtain ⟨key, v⟩ := e
      rw [oneEntryIssues, oneEntryIssues]
      split
      · rw [List.append_assoc]
        exact ih (key, v) he _ _
      · rfl
    · exact wrongType_below outer place _ _
  | other v hlist hmap =>
    rw [issues_of_other s _ hlist hmap, issues_of_other s _ hlist hmap, scalarIssues_below]

/-! ### Messages -/

lemma scalarIssues_hasMessage {s : Schema} {v : Value} {place : Location} :
    ∀ i ∈ scalarIssues s v place, i.problem.hasMessage = true := by
  intro i hi
  rw [scalarIssues.eq_def] at hi
  split at hi
  · rename_i rule written
    rw [textIssues, List.mem_append] at hi
    rcases hi with hi | hi
    · split at hi
      · split at hi
        · rw [List.mem_singleton.mp hi]; rfl
        · cases hi
      · cases hi
    · split at hi
      · split at hi
        · cases hi
        · rw [List.mem_singleton.mp hi]; rfl
      · cases hi
  · split at hi
    · cases hi
    · rw [List.mem_singleton.mp hi]; rfl
  · cases hi
  · rw [List.mem_singleton.mp hi]; rfl

lemma select_error_hasMessage {options : List (String × Schema)} {v : Value} (hv : v.IsJson)
    {place : Location} {i : Issue} (h : select options v place = .error i) :
    i.problem.hasMessage = true := by
  cases v with
  | map es =>
    cases htag : Entries.get? es discriminator with
    | none =>
      simp only [select, htag, Except.error.injEq] at h
      rw [← h]
      rfl
    | some tag =>
      have htext : tag.hasText = true := (hv.of_field? htag).hasText
      cases hoption : options.find? (fun o => tag.isStr o.1) with
      | none =>
        simp only [select, htag, hoption, Except.error.injEq] at h
        rw [← h]
        exact htext
      | some o => simp [select, htag, hoption] at h
  | _ =>
    simp only [select, Except.error.injEq] at h
    rw [← h]
    rfl

/-- Every issue of a JSON value has a message. -/
theorem issues_hasMessage {v : Value} (hv : v.IsJson) (s : Schema) (place : Location) :
    ∀ i ∈ issues s place v, i.problem.hasMessage = true := by
  induction v using Value.partsInduction generalizing s place with
  | list items ih =>
    intro i hi
    rw [issues] at hi
    split at hi
    · rename_i item _
      rw [itemIssues_eq_flatMap, List.mem_flatMap] at hi
      obtain ⟨e, he, hi⟩ := hi
      have hmem := List.fst_mem_of_mem_zipIdx he
      have hjson := Value.isJson_list_iff.mp hv e.1 hmem
      cases item with
      | variant options =>
        rw [issuesOfItem] at hi
        split at hi
        · exact ih e.1 hmem hjson _ _ i hi
        · rename_i hselect
          rw [List.mem_singleton.mp hi]
          exact select_error_hasMessage hjson hselect
      | _ => exact ih e.1 hmem hjson _ _ i hi
    · rw [List.mem_singleton.mp hi]; rfl
  | map es ih =>
    intro i hi
    rw [issues] at hi
    split at hi
    · rw [List.mem_append, entryIssues_eq_flatMap, List.mem_flatMap] at hi
      rcases hi with hi | ⟨e, he, hi⟩
      · obtain ⟨name, -, rfl⟩ := List.mem_map.mp hi
        rfl
      · obtain ⟨key, x⟩ := e
        rw [oneEntryIssues] at hi
        split at hi
        · exact ih (key, x) he ((Value.isJson_map_iff.mp hv).2.2 _ he) _ _ i hi
        · cases hi
    · rw [List.mem_singleton.mp hi]; rfl
  | other v hlist hmap =>
    rw [issues_of_other s _ hlist hmap]
    exact scalarIssues_hasMessage

end Schema

end DataContract
