/-
The issues of a document, place by place.

What is wrong within a part of a document is what is wrong with that part alone:
the check comes upon nothing else at the places below it, and upon all of that,
once and in order.  So the issues of a list of types or of members are those of
its items, one item after another, and a type has the same issues wherever it is
nested.
-/
import DataContract.Proofs.Schema.Issues
import DataContract.Proofs.Schema.Places
import Mathlib.Data.List.Nodup

namespace DataContract

namespace Issue

/-- Whether an issue is at a place or below it. -/
def isWithin (place : Location) (i : Issue) : Bool :=
  place.isPrefixOf i.location

lemma isWithin_iff {place : Location} {i : Issue} :
    i.isWithin place = true ↔ place <+: i.location :=
  List.isPrefixOf_iff_prefix

/-- What is within a place is within the places around it. -/
lemma isWithin_of_append {p q : Location} {i : Issue} (h : i.isWithin (p ++ q) = true) :
    i.isWithin p = true :=
  isWithin_iff.mpr ((List.prefix_append p q).trans (isWithin_iff.mp h))

/-- Different steps lead to places that have nothing in common. -/
lemma eq_of_isWithin {p : Location} {s t : Step} {i : Issue} (hs : i.isWithin (p ++ [s]) = true)
    (ht : i.isWithin (p ++ [t]) = true) : s = t := by
  have hprefix := List.prefix_of_prefix_length_le (isWithin_iff.mp hs) (isWithin_iff.mp ht)
    (by simp)
  simpa using hprefix.eq_of_length (by simp)

/-- To look within a place, one can look within a place around it first. -/
lemma filter_isWithin_append (l : List Issue) (p q : Location) :
    l.filter (isWithin (p ++ q)) = (l.filter (isWithin p)).filter (isWithin (p ++ q)) := by
  rw [List.filter_filter]
  refine List.filter_congr (fun i _ => ?_)
  cases h : i.isWithin (p ++ q) with
  | true => rw [isWithin_of_append h]; rfl
  | false => rfl

/-- What the message of an issue says after the place of the document. -/
def messageBelow (i : Issue) : String :=
  String.join (i.location.map Step.text) ++ ": " ++ i.problem.message

lemma message_below {p : Location} (hp : p ≠ []) (i : Issue) :
    (i.below p).message = p.text ++ i.messageBelow := by
  rw [message, below, messageBelow, Location.text_append hp]
  simp only [String.append_assoc]

end Issue

namespace Schema

open Issue

/-! ### The place of an issue -/

lemma issues_eq_map_below (s : Schema) (p : Location) (v : Value) :
    issues s p v = (issues s [] v).map (Issue.below p) := by
  have h := issues_below p s [] v
  rwa [List.append_nil] at h

lemma issuesOfItem_eq_map_below (item : Schema) (p : Location) (v : Value) :
    issuesOfItem item p v = (issuesOfItem item [] v).map (Issue.below p) := by
  have h := issuesOfItem_below p [] (fun s q => issues_below p s q v) item
  rwa [List.append_nil] at h

/-- The issues of a value are within its place. -/
lemma isWithin_of_mem_issues {s : Schema} {p : Location} {v : Value} {i : Issue}
    (h : i ∈ issues s p v) : i.isWithin p = true := by
  rw [issues_eq_map_below] at h
  obtain ⟨j, -, rfl⟩ := List.mem_map.mp h
  exact isWithin_iff.mpr (List.prefix_append p j.location)

lemma isWithin_of_mem_issuesOfItem {item : Schema} {p : Location} {v : Value} {i : Issue}
    (h : i ∈ issuesOfItem item p v) : i.isWithin p = true := by
  rw [issuesOfItem_eq_map_below] at h
  obtain ⟨j, -, rfl⟩ := List.mem_map.mp h
  exact isWithin_iff.mpr (List.prefix_append p j.location)

/-! ### Within an item of a list -/

lemma issues_list (item : Schema) (p : Location) (items : List Value) :
    issues (.list item) p (.list items) =
      items.zipIdx.flatMap (fun e => issuesOfItem item (p ++ [.item e.2]) e.1) := by
  rw [issues, ← itemIssues_eq_flatMap]
  rfl

/-- The issues within an item of a list are those of the item. -/
lemma filter_issues_list {item : Schema} {p : Location} {items : List Value} {index : Nat}
    {v : Value} (h : items[index]? = some v) :
    (issues (.list item) p (.list items)).filter (isWithin (p ++ [.item index])) =
      issuesOfItem item (p ++ [.item index]) v := by
  obtain ⟨hlt, hv⟩ := List.getElem?_eq_some_iff.mp h
  have hother : ∀ l : List (Value × Nat), (∀ e ∈ l, e.2 ≠ index) →
      (l.flatMap (fun e => issuesOfItem item (p ++ [.item e.2]) e.1)).filter
        (isWithin (p ++ [.item index])) = [] := by
    intro l hl
    rw [List.filter_eq_nil_iff]
    intro i hi hwithin
    obtain ⟨e, he, hi⟩ := List.mem_flatMap.mp hi
    have hstep := eq_of_isWithin (isWithin_of_mem_issuesOfItem hi) hwithin
    exact hl e he (Step.item.inj hstep)
  have hself : (issuesOfItem item (p ++ [.item index]) v).filter (isWithin (p ++ [.item index])) =
      issuesOfItem item (p ++ [.item index]) v :=
    List.filter_eq_self.mpr (fun i hi => isWithin_of_mem_issuesOfItem hi)
  -- the list is what stands before the item, the item, and what stands behind it
  have hsplit : items = items.take index ++ v :: items.drop (index + 1) := by
    rw [← hv, ← List.drop_eq_getElem_cons hlt, List.take_append_drop]
  have hlength : 0 + (items.take index).length = index := by
    rw [Nat.zero_add, List.length_take_of_le (Nat.le_of_lt hlt)]
  rw [issues_list, hsplit, List.zipIdx_append, List.zipIdx_cons, hlength, List.flatMap_append,
    List.flatMap_cons, List.filter_append, List.filter_append, hself, hother, hother]
  · simp
  · intro e he
    have hle := (List.mem_zipIdx he).1
    omega
  · intro e he
    have hlt := (List.mem_zipIdx he).2.1
    omega

/-! ### Within an entry of a mapping -/

/-- A schema of mappings has a schema for the entry with a name. -/
def HasEntry (s : Schema) (name : String) (sub : Schema) : Prop :=
  ∃ required named, s.resolve = .record required named ∧
    named.find? (fun n => (Value.str name).isStr n.1) = some (name, sub)

lemma document_hasEntry_types : document.HasEntry "types" (.list .contractType) :=
  ⟨_, _, rfl, rfl⟩

lemma contractType_hasEntry_nested :
    contractType.HasEntry "nested_types" (.list .contractType) :=
  ⟨_, _, rfl, rfl⟩

lemma contractType_hasEntry_members : contractType.HasEntry "members" (.list member) :=
  ⟨_, _, rfl, rfl⟩

/-- The issues of an entry are within the place that its key gives it. -/
lemma key_of_mem_oneEntryIssues {named : List (String × Schema)} {p : Location}
    {e : Value × Value} {i : Issue} {name : String} (hi : i ∈ oneEntryIssues named p e)
    (hwithin : i.isWithin (p.entry name) = true) : e.1 = .str name := by
  obtain ⟨key, x⟩ := e
  rw [oneEntryIssues] at hi
  split at hi
  · rename_i other sub hfind
    have hkey : key = .str other := by simpa using List.find?_some hfind
    have hstep := eq_of_isWithin (isWithin_of_mem_issues hi) hwithin
    rw [hkey, Step.field.inj hstep]
  · cases hi

/-- A missing entry is noted at the mapping itself. -/
lemma filter_missingIssues (required : List String) (es : Entries) (p : Location)
    (name : String) : (missingIssues required es p).filter (isWithin (p.entry name)) = [] := by
  rw [List.filter_eq_nil_iff]
  intro i hi hwithin
  obtain ⟨missing, -, rfl⟩ := List.mem_map.mp hi
  have hle : (p.entry name).length ≤ p.length := (isWithin_iff.mp hwithin).length_le
  rw [Location.entry, List.length_append, List.length_singleton] at hle
  exact Nat.not_succ_le_self _ hle

section Entry

variable {s sub item : Schema} {name : String} {v x : Value}

/-- The issues within an entry of a mapping are those of its value. -/
lemma filter_issues_entry (hs : s.HasEntry name sub) (hv : v.HasDistinctKeys)
    (hx : v.field? name = some x) (p : Location) :
    (issues s p v).filter (isWithin (p.entry name)) = issues sub (p.entry name) x := by
  obtain ⟨required, named, hrecord, hname⟩ := hs
  obtain ⟨es, rfl⟩ := Value.exists_map_of_field? hx
  have hnodup : (es.map Prod.fst).Nodup := hv [] es rfl
  have hother : ∀ l : Entries, Value.str name ∉ l.map Prod.fst →
      (l.flatMap (oneEntryIssues named p)).filter (isWithin (p.entry name)) = [] := by
    intro l hl
    rw [List.filter_eq_nil_iff]
    intro i hi hwithin
    obtain ⟨e, he, hi⟩ := List.mem_flatMap.mp hi
    exact hl (List.mem_map.mpr ⟨e, he, key_of_mem_oneEntryIssues hi hwithin⟩)
  have hself : (oneEntryIssues named p (.str name, x)).filter (isWithin (p.entry name)) =
      issues sub (p.entry name) x := by
    simp only [oneEntryIssues, hname]
    exact List.filter_eq_self.mpr (fun i hi => isWithin_of_mem_issues hi)
  -- no entry before or behind the one that is found has its key
  obtain ⟨before, after, rfl⟩ := List.append_of_mem (Entries.mem_of_get? hx)
  rw [List.map_append, List.map_cons, List.nodup_middle, List.nodup_cons, List.mem_append,
    not_or] at hnodup
  obtain ⟨⟨hbefore, hafter⟩, -⟩ := hnodup
  rw [issues, hrecord]
  simp only [entryIssues_eq_flatMap, List.filter_append, filter_missingIssues,
    List.flatMap_append, List.flatMap_cons, hself, hother before hbefore, hother after hafter,
    List.nil_append, List.append_nil]

/-- The issues of a list under a name are those of its items, in order. -/
lemma filter_issues_items (hs : s.HasEntry name (.list item)) (hv : v.HasDistinctKeys)
    {items : List Value} (hitems : v.field? name = some (.list items)) (p : Location) :
    (issues s p v).filter (isWithin (p.entry name)) =
      items.zipIdx.flatMap (fun e => issuesOfItem item (p.item name e.2) e.1) := by
  rw [filter_issues_entry hs hv hitems, issues_list]
  refine List.flatMap_congr (fun e _ => ?_)
  rw [Location.item_eq]

/-- The issues within an item of a list under a name are those of the item. -/
lemma filter_issues_item (hs : s.HasEntry name (.list item)) (hv : v.HasDistinctKeys)
    {index : Nat} (hx : (v.itemsOf name)[index]? = some x) (p : Location) :
    (issues s p v).filter (isWithin (p.item name index)) =
      issuesOfItem item (p.item name index) x := by
  have hitems := Value.field?_of_mem_itemsOf (List.mem_of_getElem? hx)
  rw [Location.item_eq, filter_isWithin_append, filter_issues_entry hs hv hitems,
    filter_issues_list hx]

end Entry

/-! ### Within the types of a document -/

/-- The issues within a type of a document are those of the type, wherever it is nested. -/
lemma filter_documentIssues_type {v : Value} (hv : v.HasDistinctKeys) {index : Nat}
    {indices : List Nat} {t : Value} (ht : v.at? (Location.ofType index indices) = some t) :
    (documentIssues v).filter (isWithin (Location.ofType index indices)) =
      issues .contractType (Location.ofType index indices) t := by
  -- the induction takes the innermost index off: the type around it is settled first
  induction indices using List.reverseRecOn generalizing t with
  | nil =>
    have htop : (v.itemsOf "types")[index]? = some t :=
      (Value.at?_item v [] "types" index).symm.trans ht
    exact filter_issues_item document_hasEntry_types hv htop []
  | append_singleton indices j ih =>
    rw [Location.ofType_concat] at ht ⊢
    rw [Value.at?_item] at ht
    obtain ⟨u, hu, ht⟩ := Option.bind_eq_some_iff.mp ht
    rw [Location.item, filter_isWithin_append, ih hu]
    exact filter_issues_item contractType_hasEntry_nested (hv.at hu) ht _

/-- The issues within a member of a type are those of the member. -/
lemma filter_documentIssues_member {v : Value} (hv : v.HasDistinctKeys) {index : Nat}
    {indices : List Nat} {k : Nat} {m : Value}
    (hm : v.at? ((Location.ofType index indices).item "members" k) = some m) :
    (documentIssues v).filter (isWithin ((Location.ofType index indices).item "members" k)) =
      issuesOfItem member ((Location.ofType index indices).item "members" k) m := by
  rw [Value.at?_item] at hm
  obtain ⟨u, hu, hm⟩ := Option.bind_eq_some_iff.mp hm
  rw [Location.item, filter_isWithin_append, filter_documentIssues_type hv hu]
  exact filter_issues_item contractType_hasEntry_members (hv.at hu) hm _

/-- The messages for a type start with its place, and nothing else in them depends on the place. -/
lemma messages_contractType {p : Location} (hp : p ≠ []) (v : Value) :
    (issues .contractType p v).map Issue.message =
      ((issues .contractType [] v).map Issue.messageBelow).map (p.text ++ ·) := by
  rw [issues_eq_map_below, List.map_map, List.map_map]
  exact List.map_congr_left (fun i _ => message_below hp i)

/-- **Issues are local and complete.**  The messages for a type are its place followed by texts that
are the same at every place.  Within a list of types or members the issues are those of the items,
one item after another; and within a type or a member of a document, however deep it is nested, they
are exactly those that it has by itself. -/
theorem issues_local_and_complete (v : Value) :
    (∃ rests : List String, ∀ p : Location, p ≠ [] →
      (issues .contractType p v).map Issue.message = rests.map (p.text ++ ·)) ∧
    (v.HasDistinctKeys →
      (∀ types, v.field? "types" = some (.list types) →
        (documentIssues v).filter (isWithin (Location.entry [] "types")) =
          types.zipIdx.flatMap (fun e => issues .contractType (Location.ofType e.2 []) e.1)) ∧
      (∀ p types, v.field? "nested_types" = some (.list types) →
        (issues .contractType p v).filter (isWithin (p.entry "nested_types")) =
          types.zipIdx.flatMap (fun e => issues .contractType (p.item "nested_types" e.2) e.1)) ∧
      (∀ p members, v.field? "members" = some (.list members) →
        (issues .contractType p v).filter (isWithin (p.entry "members")) =
          members.zipIdx.flatMap (fun e => issuesOfItem member (p.item "members" e.2) e.1)) ∧
      (∀ index indices t, v.at? (Location.ofType index indices) = some t →
        (documentIssues v).filter (isWithin (Location.ofType index indices)) =
          issues .contractType (Location.ofType index indices) t) ∧
      (∀ index indices k m, v.at? ((Location.ofType index indices).item "members" k) = some m →
        (documentIssues v).filter (isWithin ((Location.ofType index indices).item "members" k)) =
          issuesOfItem member ((Location.ofType index indices).item "members" k) m)) := by
  refine ⟨⟨_, fun p hp => messages_contractType hp v⟩, fun hv => ⟨?_, ?_, ?_, ?_, ?_⟩⟩
  · intro types htypes
    exact filter_issues_items document_hasEntry_types hv htypes []
  · intro p types htypes
    exact filter_issues_items contractType_hasEntry_nested hv htypes p
  · intro p members hmembers
    exact filter_issues_items contractType_hasEntry_members hv hmembers p
  · intro index indices t ht
    exact filter_documentIssues_type hv ht
  · intro index indices k m hm
    exact filter_documentIssues_member hv hm

/-- A type with issues: it is of no kind, and one of its members is of no kind either. -/
def brokenType : Value :=
  .map [(.str "name", .str "Kind"), (.str "kind", .str "struct"),
    (.str "members", .list [.map [(.str "member", .str "event")],
      .map [(.str "member", .str "enum_value")]])]

/-- A document without a version, in which a type with issues is nested in one without a name. -/
def brokenExample : Value :=
  .map [(.str "namespace", .str "Tunnels"),
    (.str "types", .list [.map [(.str "name", .str "Port")],
      .map [(.str "is_static", .str "yes"), (.str "nested_types", .list [brokenType])]])]

theorem issues_local_brokenExample :
    brokenExample.HasDistinctKeys ∧
      (documentIssues brokenExample).filter (isWithin (Location.ofType 1 [0])) =
        issues .contractType (Location.ofType 1 [0]) brokenType ∧
      (issues .contractType (Location.ofType 1 [0]) brokenType).length = 3 := by
  have hdistinct : brokenExample.HasDistinctKeys :=
    Value.IsJson.hasDistinctKeys (by simp [brokenExample, brokenType])
  obtain ⟨-, -, -, htype, -⟩ := (issues_local_and_complete brokenExample).2 hdistinct
  exact ⟨hdistinct, htype 1 [0] brokenType rfl, rfl⟩

end Schema

end DataContract
