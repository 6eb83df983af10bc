/-
The values that JSON texts hold.

A JSON value is built from null, truth values, numbers and texts by lists and
objects.  The keys of an object are texts, and no two of them are equal, so an
object is a finite map: an entry is found under a name exactly if it is there.
-/
import DataContract.Value.Text
import Mathlib.Tactic.Common

namespace DataContract

namespace Value

/-! ### Induction on the parts of a value -/

/-- A property of values holds if it passes from the items of a list to the list, from the values
of a mapping to the mapping, and if it holds for every other value. -/
@[elab_as_elim]
theorem partsInduction {motive : Value → Prop}
    (list : ∀ items : List Value, (∀ v ∈ items, motive v) → motive (.list items))
    (map : ∀ es : Entries, (∀ e ∈ es, motive e.2) → motive (.map es))
    (other : ∀ v : Value, (∀ items, v ≠ .list items) → (∀ es, v ≠ .map es) → motive v)
    (v : Value) : motive v := by
  -- the induction is on the size, which bounds that of every part
  induction hn : sizeOf v using Nat.strongRecOn generalizing v with
  | ind n ih =>
    subst hn
    cases v with
    | list items =>
      refine list items (fun v hv => ih _ ?_ v rfl)
      have hlt := List.sizeOf_lt_of_mem hv
      simp only [Value.list.sizeOf_spec]
      omega
    | map es =>
      refine map es (fun e he => ih _ ?_ e.2 rfl)
      have hlt := List.sizeOf_lt_of_mem he
      obtain ⟨k, x⟩ := e
      simp only [Prod.mk.sizeOf_spec] at hlt
      simp only [Value.map.sizeOf_spec]
      omega
    | _ => exact other _ (by simp) (by simp)

/-! ### JSON values -/

/-- A value that a JSON text can hold, with integers that have few enough digits to be read. -/
inductive IsJson : Value → Prop
  | null : IsJson .null
  | bool (b : Bool) : IsJson (.bool b)
  | int {i : Int} (hi : isWritable i = true) : IsJson (.int i)
  | float (x : Binary64) : IsJson (.float x)
  | str (s : String) : IsJson (.str s)
  | list {items : List Value} (hitems : ∀ v ∈ items, IsJson v) : IsJson (.list items)
  | map {es : List (Value × Value)} (htexts : ∀ e ∈ es, ∃ s, e.1 = .str s)
      (hnodup : (es.map Prod.fst).Nodup) (hvalues : ∀ e ∈ es, IsJson e.2) : IsJson (.map es)

attribute [simp] IsJson.null IsJson.bool IsJson.float IsJson.str

@[simp] lemma isJson_int_iff {i : Int} : IsJson (.int i) ↔ isWritable i = true := by
  constructor
  · rintro (_ | _ | hi)
    exact hi
  · exact IsJson.int

@[simp] lemma isJson_list_iff {items : List Value} :
    IsJson (.list items) ↔ ∀ v ∈ items, IsJson v := by
  constructor
  · rintro (_ | _ | _ | _ | _ | hitems)
    exact hitems
  · exact IsJson.list

@[simp] lemma isJson_map_iff {es : List (Value × Value)} :
    IsJson (.map es) ↔
      (∀ e ∈ es, ∃ s, e.1 = .str s) ∧ (es.map Prod.fst).Nodup ∧ ∀ e ∈ es, IsJson e.2 := by
  constructor
  · rintro (_ | _ | _ | _ | _ | _ | ⟨htexts, hnodup, hvalues⟩)
    exact ⟨htexts, hnodup, hvalues⟩
  · rintro ⟨htexts, hnodup, hvalues⟩
    exact IsJson.map htexts hnodup hvalues

lemma itemsHaveText_of_forall {items : List Value} (h : ∀ v ∈ items, v.hasText = true) :
    itemsHaveText items = true := by
  induction items with
  | nil => rfl
  | cons v rest ih =>
    rw [itemsHaveText, h v (by simp), ih (fun u hu => h u (by simp [hu]))]
    rfl

lemma entriesHaveText_of_forall {es : List (Value × Value)}
    (h : ∀ e ∈ es, e.1.hasText = true ∧ e.2.hasText = true) : entriesHaveText es = true := by
  induction es with
  | nil => rfl
  | cons e rest ih =>
    obtain ⟨k, v⟩ := e
    obtain ⟨hk, hv⟩ := h (k, v) (by simp)
    rw [entriesHaveText, entryHasText, hk, hv, ih (fun u hu => h u (by simp [hu]))]
    rfl

/-- Every JSON value has a text. -/
lemma IsJson.hasText {v : Value} (h : v.IsJson) : v.hasText = true := by
  induction h with
  | int hi => rw [Value.hasText, hi]
  | list _ ih =>
    rw [Value.hasText]
    exact itemsHaveText_of_forall ih
  | map htexts _ _ ih =>
    rw [Value.hasText]
    refine entriesHaveText_of_forall (fun e he => ⟨?_, ih e he⟩)
    obtain ⟨s, hs⟩ := htexts e he
    rw [hs]
    rfl
  | _ => rfl

/-! ### Entries by their names -/

@[simp] lemma isStr_iff {name : String} {v : Value} : v.isStr name = true ↔ v = .str name := by
  cases v with
  | str s => simp [isStr]
  | _ => simp [isStr]

/-- The value under a name; a value that is no mapping has nothing under any name. -/
def field? : Value → String → Option Value
  | .map es, name => Entries.get? es name
  | _, _ => none

@[simp] lemma field?_map (es : Entries) (name : String) :
    (Value.map es).field? name = es.get? name := rfl

lemma exists_map_of_field? {v x : Value} {name : String} (h : v.field? name = some x) :
    ∃ es : Entries, v = .map es := by
  cases v with
  | map es => exact ⟨es, rfl⟩
  | _ => cases h

end Value

lemma Entries.mem_of_get? {es : Entries} {name : String} {x : Value}
    (h : es.get? name = some x) : (Value.str name, x) ∈ es := by
  obtain ⟨⟨k, y⟩, hfind, rfl⟩ := Option.map_eq_some_iff.mp h
  have hmem := List.mem_of_find?_eq_some hfind
  have hpred := List.find?_some hfind
  have hkey : k = .str name := Value.isStr_iff.mp hpred
  subst hkey
  exact hmem

/-- If every key occurs once, then the value that stands under a name is the one that is found. -/
lemma Entries.get?_eq_some_iff {es : Entries} (hnodup : (es.map Prod.fst).Nodup) {name : String}
    {x : Value} : es.get? name = some x ↔ (Value.str name, x) ∈ es := by
  refine ⟨Entries.mem_of_get?, fun hmem => ?_⟩
  induction es with
  | nil => cases hmem
  | cons e rest ih =>
    simp only [List.map_cons, List.nodup_cons] at hnodup
    rcases List.mem_cons.mp hmem with rfl | hrest
    · simp [Entries.get?]
    · have hne : e.1 ≠ .str name := by
        rintro hkey
        exact hnodup.1 (List.mem_map.mpr ⟨_, hrest, hkey.symm⟩)
      have hskip : e.1.isStr name = false :=
        Bool.eq_false_iff.mpr (fun hstr => hne (Value.isStr_iff.mp hstr))
      have hfound := ih hnodup.2 hrest
      simpa only [Entries.get?, List.find?_cons, hskip] using hfound

namespace Value

lemma IsJson.mem_iff_field? {es : Entries} (h : IsJson (.map es)) {name : String} {x : Value} :
    (Value.str name, x) ∈ es ↔ (Value.map es).field? name = some x :=
  (Entries.get?_eq_some_iff (isJson_map_iff.mp h).2.1).symm

/-- What stands under a name in a JSON value is a JSON value. -/
lemma IsJson.of_field? {v x : Value} {name : String} (h : v.IsJson)
    (hx : v.field? name = some x) : x.IsJson := by
  obtain ⟨es, rfl⟩ := exists_map_of_field? hx
  exact (isJson_map_iff.mp h).2.2 _ (h.mem_iff_field?.mpr hx)

end Value

end DataContract
