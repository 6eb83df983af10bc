/-
Places in a document.

The steps of a place lead from a value to one of its parts, or to nothing.  The
types of a document have places of their own: an index in the list of types, and
one more index for every type around the one that is meant.  The message of an
issue starts with the text of its place.
-/
import DataContract.Proofs.Value.Json
import DataContract.Schema.Issue
import Mathlib.Data.List.Induction

namespace DataContract

/-- What a step leads to. -/
def Step.into : Step → Value → Option Value
  | .field name, v => v.field? name
  | .item index, .list items => items[index]?
  | .item _, _ => none

namespace Value

/-! ### Following a place -/

/-- The value at a place. -/
def at? : Value → Location → Option Value
  | v, [] => some v
  | v, s :: rest => (s.into v).bind (fun x => x.at? rest)

lemma at?_append (v : Value) (p q : Location) :
    v.at? (p ++ q) = (v.at? p).bind (fun x => x.at? q) := by
  induction p generalizing v with
  | nil => rfl
  | cons s rest ih =>
    rw [List.cons_append, at?, at?, Option.bind_assoc]
    exact congrArg _ (funext (fun x => ih x))

/-- At every place of a value, no key of a mapping occurs twice. -/
def HasDistinctKeys (v : Value) : Prop :=
  ∀ p es, v.at? p = some (.map es) → (es.map Prod.fst).Nodup

lemma HasDistinctKeys.at {v x : Value} {p : Location} (h : v.HasDistinctKeys)
    (hx : v.at? p = some x) : x.HasDistinctKeys := by
  intro q es hq
  refine h (p ++ q) es ?_
  rw [at?_append, hx]
  exact hq

lemma IsJson.into {v x : Value} {s : Step} (h : v.IsJson) (hx : s.into v = some x) :
    x.IsJson := by
  cases s with
  | field name => exact h.of_field? hx
  | item index =>
    cases v with
    | list items => exact isJson_list_iff.mp h x (List.mem_of_getElem? hx)
    | _ => cases hx

/-- The keys of a JSON value are distinct. -/
lemma IsJson.hasDistinctKeys {v : Value} (h : v.IsJson) : v.HasDistinctKeys := by
  intro p es hp
  induction p generalizing v with
  | nil =>
    cases hp
    exact (isJson_map_iff.mp h).2.1
  | cons s rest ih =>
    obtain ⟨x, hx, hrest⟩ := Option.bind_eq_some_iff.mp hp
    exact ih (h.into hx) hrest

end Value

/-! ### The places of types -/

namespace Location

/-- The place of the entry with a name. -/
def entry (p : Location) (name : String) : Location := p ++ [.field name]

/-- The place of an item of the list under a name. -/
def item (p : Location) (name : String) (index : Nat) : Location :=
  p ++ [.field name, .item index]

/-- The way from a type to one nested in it, by the indices that lead there. -/
def toNested (indices : List Nat) : Location :=
  indices.flatMap (fun j => item [] "nested_types" j)

/-- The place of a type: its index at the top, and the indices from there to the type. -/
def ofType (index : Nat) (indices : List Nat) : Location :=
  item [] "types" index ++ toNested indices

lemma item_eq (p : Location) (name : String) (index : Nat) :
    p.item name index = p.entry name ++ [.item index] := by
  rw [item, entry, List.append_assoc]
  rfl

lemma ofType_concat (index : Nat) (indices : List Nat) (j : Nat) :
    ofType index (indices ++ [j]) = (ofType index indices).item "nested_types" j := by
  simp [ofType, toNested, item]

/-- The text of a place that is not the whole document. -/
lemma text_of_ne_nil {l : Location} (h : l ≠ []) : l.text = String.join (l.map Step.text) := by
  cases l with
  | nil => exact absurd rfl h
  | cons s rest => rfl

lemma text_append {p : Location} (h : p ≠ []) (q : Location) :
    (p ++ q).text = p.text ++ String.join (q.map Step.text) := by
  have hne : p ++ q ≠ [] := by simp [h]
  rw [text_of_ne_nil hne, text_of_ne_nil h, List.map_append, String.join_append]

lemma text_item {p : Location} (h : p ≠ []) (name : String) (index : Nat) :
    (p.item name index).text = p.text ++ "." ++ name ++ "[" ++ toString index ++ "]" := by
  rw [item, text_append h]
  simp [Step.text, String.join_cons, ← String.append_assoc]

/-- The text of the place of a type. -/
lemma text_ofType (index : Nat) (indices : List Nat) :
    (ofType index indices).text = ".types[" ++ toString index ++ "]" ++
      String.join (indices.map (fun j => ".nested_types[" ++ toString j ++ "]")) := by
  induction indices using List.reverseRecOn with
  | nil => simp [ofType, toNested, item, text, Step.text, String.join_cons, ← String.append_assoc]
  | append_singleton indices j ih =>
    have hne : ofType index indices ≠ [] := by simp [ofType, item]
    have hword : "." ++ "nested_types" ++ "[" = ".nested_types[" := rfl
    rw [ofType_concat, text_item hne, ih, ← hword]
    simp [String.join_append, String.join_cons, String.append_assoc]

end Location

namespace Value

/-! ### The items of a list under a name -/

/-- The items of the list under a name; there are none if there is no such list. -/
def itemsOf (v : Value) (name : String) : List Value :=
  match v.field? name with
  | some (.list items) => items
  | _ => []

lemma itemsOf_of_list {v : Value} {name : String} {items : List Value}
    (h : v.field? name = some (.list items)) : v.itemsOf name = items := by
  rw [itemsOf, h]

lemma itemsOf_of_none {v : Value} {name : String} (h : v.field? name = none) :
    v.itemsOf name = [] := by
  rw [itemsOf, h]

lemma field?_of_mem_itemsOf {v u : Value} {name : String} (h : u ∈ v.itemsOf name) :
    v.field? name = some (.list (v.itemsOf name)) := by
  rw [itemsOf] at h
  split at h
  · rename_i items hitems
    rw [itemsOf_of_list hitems, hitems]
  · cases h

/-- The items of a list under a name are at their places. -/
lemma at?_item (v : Value) (p : Location) (name : String) (index : Nat) :
    v.at? (p.item name index) = (v.at? p).bind (fun u => (u.itemsOf name)[index]?) := by
  rw [Location.item, at?_append]
  refine congrArg _ (funext (fun u => ?_))
  rw [at?, Step.into, itemsOf]
  cases u.field? name with
  | none => rfl
  | some x =>
    cases x with
    | list items => simp [at?, Step.into]
    | _ => rfl

lemma at?_item_append (v : Value) (name : String) (index : Nat) (p : Location) :
    v.at? (Location.item [] name index ++ p) =
      (v.itemsOf name)[index]?.bind (fun u => u.at? p) := by
  rw [at?_append, at?_item]
  rfl

end Value

end DataContract
