/-
The rules on source files and names.

Below a document that the schema admits, the type objects are its types, and the
rules that the schema does not express hold exactly if every type at the top
names a source file, no two of them have one name, and no source file at any
depth is rooted.
-/
import DataContract.Model.Reading
import DataContract.Proofs.Model.Language

namespace DataContract

open Value

namespace TypeObject

/-- A property of type objects holds if it passes from the nested ones to the one around them. -/
@[elab_as_elim]
theorem nestedInduction {motive : TypeObject → Prop}
    (mk : ∀ es ns, (∀ t ∈ ns, motive t) → motive (.mk es ns)) : ∀ t, motive t
  | .mk es ns => mk es ns (fun t ht =>
      have hlt : sizeOf t < sizeOf (TypeObject.mk es ns) := by
        have := List.sizeOf_lt_of_mem ht
        simp only [TypeObject.mk.sizeOf_spec]
        omega
      nestedInduction mk t)
  termination_by t => sizeOf t

/-! ### The type object of a value -/

lemma ofItems_eq_map (items : List Value) : ofItems items = items.map ofValue := by
  induction items with
  | nil => rw [ofItems]; rfl
  | cons v rest ih => rw [ofItems, ih, List.map_cons]

lemma ofEntries_eq (es : Entries) :
    ofEntries es = ((es.get? nestedKey).map ofListValue).getD [] := by
  induction es with
  | nil => rw [ofEntries]; rfl
  | cons e rest ih =>
    obtain ⟨key, v⟩ := e
    rw [ofEntries, ofNamed?]
    by_cases hkey : key.isStr nestedKey = true
    · simp [hkey, Entries.get?]
    · simpa [hkey, Entries.get?] using ih

lemma entries_ofValue_get? (v : Value) (name : String) :
    (ofValue v).entries.get? name = v.field? name := by
  cases v with
  | map es => rw [ofValue]; rfl
  | _ => rfl

/-- The type objects nested in a value are those of the items under the right name. -/
lemma nested_ofValue (v : Value) :
    (ofValue v).nested = ((v.field? nestedKey).map ofListValue).getD [] := by
  cases v with
  | map es => rw [ofValue, nested, ofEntries_eq]; rfl
  | _ => rfl

lemma nested_ofValue_of_list {v : Value} {items : List Value}
    (h : v.field? nestedKey = some (.list items)) :
    (ofValue v).nested = items.map ofValue := by
  rw [nested_ofValue, h, ← ofItems_eq_map]
  rfl

lemma source?_ofValue (v : Value) :
    (ofValue v).source? = (v.field? "source_file").map (fun x => x.asStr?.getD "") := by
  rw [source?, entries_ofValue_get?]

lemma name_ofValue (v : Value) :
    (ofValue v).name = ((v.field? "name").bind Value.asStr?).getD "" := by
  rw [name, entries_ofValue_get?]

end TypeObject

/-! ### Source files -/

lemma nestedSourceIssues_eq_flatMap (place : Location) (index : Nat) (ts : List TypeObject) :
    nestedSourceIssues place index ts =
      (ts.zipIdx index).flatMap (fun e => sourceIssues (place ++ [.item e.2]) e.1) := by
  induction ts generalizing index with
  | nil => rw [nestedSourceIssues]; rfl
  | cons t rest ih => rw [nestedSourceIssues, ih, List.zipIdx_cons, List.flatMap_cons]

/-- A type object has no issue if its own source file is relative and those below have none. -/
lemma sourceIssues_eq_nil_iff {place : Location} {t : TypeObject} :
    sourceIssues place t = [] ↔
      (∀ s, t.source? = some s → isRooted s = false) ∧
        ∀ e ∈ t.nested.zipIdx,
          sourceIssues (place ++ [.field TypeObject.nestedKey] ++ [.item e.2]) e.1 = [] := by
  obtain ⟨es, ns⟩ := t
  rw [sourceIssues, List.append_eq_nil_iff, nestedSourceIssues_eq_flatMap,
    List.flatMap_eq_nil_iff]
  refine and_congr ?_ Iff.rfl
  cases (TypeObject.mk es ns).source? with
  | none => simp
  | some s => simp

lemma sourceIssues_hasMessage (t : TypeObject) (place : Location) :
    ∀ i ∈ sourceIssues place t, i.problem.hasMessage = true := by
  induction t using TypeObject.nestedInduction generalizing place with
  | mk es ns ih =>
    intro i hi
    rw [sourceIssues, List.mem_append, nestedSourceIssues_eq_flatMap, List.mem_flatMap] at hi
    rcases hi with hi | ⟨e, he, hi⟩
    · split at hi
      · split at hi
        · rw [List.mem_singleton.mp hi]; rfl
        · cases hi
      · cases hi
    · exact ih e.1 (List.fst_mem_of_mem_zipIdx he) _ i hi

/-- Below a type there is no issue exactly if no type within it has a rooted source file. -/
lemma sourceIssues_ofValue_eq_nil_iff {v : Value} (hv : v.IsType) (place : Location) :
    sourceIssues place (TypeObject.ofValue v) = [] ↔
      ∀ u, TypeWithin v u → ∀ s, u.field? "source_file" = some (.str s) → isRooted s = false := by
  induction hv generalizing place with
  | @intro v head list nested ih =>
    have hown : (∀ s, (TypeObject.ofValue v).source? = some s → isRooted s = false) ↔
        ∀ s, v.field? "source_file" = some (.str s) → isRooted s = false := by
      rw [TypeObject.source?_ofValue]
      cases hsource : v.field? "source_file" with
      | none => simp
      | some x =>
        obtain ⟨s, rfl⟩ := head.sourceFile x hsource
        simp [asStr?]
    rw [sourceIssues_eq_nil_iff, hown]
    constructor
    · rintro ⟨hself, hbelow⟩ u hu
      cases hu with
      | self => exact hself
      | @nested _ w _ items hitems hw hu =>
        obtain ⟨i, hi, rfl⟩ := List.getElem_of_mem hw
        refine (ih items hitems _ hw _).mp (hbelow (TypeObject.ofValue items[i], i) ?_) u hu
        rw [TypeObject.nested_ofValue_of_list hitems]
        simp [List.mk_mem_zipIdx_iff_getElem?, hi]
    · intro h
      refine ⟨h v (.self v), fun e he => ?_⟩
      have hmem := List.fst_mem_of_mem_zipIdx he
      cases hitems : v.field? TypeObject.nestedKey with
      | none => simp [TypeObject.nested_ofValue, hitems] at hmem
      | some x =>
        obtain ⟨items, rfl⟩ := list x hitems
        rw [TypeObject.nested_ofValue_of_list hitems] at hmem
        obtain ⟨w, hw, heq⟩ := List.mem_map.mp hmem
        rw [← heq]
        exact (ih items hitems w hw _).mpr (fun u hu => h u (.nested hitems hw hu))

/-! ### Types at the top -/

/-- The rules on the types at the top, with names that must not occur again. -/
lemma topIssues_eq_nil_iff {place : Location} {index : Nat} {seen : List String}
    {ts : List TypeObject} :
    topIssues place index seen ts = [] ↔
      (∀ t ∈ ts, ∃ s, t.source? = some s ∧ s ≠ "") ∧ (∀ t ∈ ts, t.name ∉ seen) ∧
        (ts.map TypeObject.name).Nodup ∧
        ∀ e ∈ ts.zipIdx index, sourceIssues (place ++ [.item e.2]) e.1 = [] := by
  induction ts generalizing index seen with
  | nil => simp [topIssues]
  | cons t rest ih =>
    have hsource : t.source?.all (· == "") = false ↔ ∃ s, t.source? = some s ∧ s ≠ "" := by
      cases t.source? <;> simp
    have hown : (if t.source?.all (· == "") = true then
          [(⟨place ++ [.item index], .noSourceFile t.name⟩ : Issue)] else []) = [] ↔
        ∃ s, t.source? = some s ∧ s ≠ "" := by
      rw [← hsource]
      cases t.source?.all (· == "") <;> simp
    have hname : (if seen.contains t.name = true then
        [(⟨place ++ [.item index], .duplicate t.name⟩ : Issue)] else []) = [] ↔
        t.name ∉ seen := by
      by_cases hmem : t.name ∈ seen <;> simp [hmem]
    have hseen : (∀ u ∈ rest, u.name ∉ t.name :: seen) ↔
        t.name ∉ rest.map TypeObject.name ∧ ∀ u ∈ rest, u.name ∉ seen := by
      simp only [List.mem_cons, not_or, List.mem_map, not_exists, not_and]
      exact forall₂_and
    simp only [topIssues, List.append_eq_nil_iff, hown, hname, ih, hseen, List.forall_mem_cons,
      List.map_cons, List.nodup_cons, List.zipIdx_cons]
    constructor
    · rintro ⟨⟨⟨hs, hn⟩, hi⟩, hss, ⟨hne, hns⟩, hnodup, his⟩
      exact ⟨⟨hs, hss⟩, ⟨hn, hns⟩, ⟨hne, hnodup⟩, hi, his⟩
    · rintro ⟨⟨hs, hss⟩, ⟨hn, hns⟩, ⟨hne, hnodup⟩, hi, his⟩
      exact ⟨⟨⟨hs, hn⟩, hi⟩, hss, ⟨hne, hns⟩, hnodup, his⟩

lemma topIssues_hasMessage (place : Location) (index : Nat) (seen : List String)
    (ts : List TypeObject) :
    ∀ i ∈ topIssues place index seen ts, i.problem.hasMessage = true := by
  induction ts generalizing index seen with
  | nil => simp [topIssues]
  | cons t rest ih =>
    intro i hi
    simp only [topIssues, List.mem_append] at hi
    rcases hi with ((hi | hi) | hi) | hi
    · split at hi
      · rw [List.mem_singleton.mp hi]; rfl
      · cases hi
    · split at hi
      · rw [List.mem_singleton.mp hi]; rfl
      · cases hi
    · exact sourceIssues_hasMessage t _ i hi
    · exact ih _ _ i hi

lemma source?_ofValue_iff {v : Value} (hv : v.IsType) :
    (∃ s, (TypeObject.ofValue v).source? = some s ∧ s ≠ "") ↔
      v.Requires "source_file" IsNonEmptyText := by
  obtain ⟨head, -, -⟩ := hv
  rw [TypeObject.source?_ofValue]
  cases hsource : v.field? "source_file" with
  | none => simp [Requires, hsource]
  | some x =>
    obtain ⟨s, rfl⟩ := head.sourceFile x hsource
    simp [Requires, IsNonEmptyText, hsource, asStr?]

lemma field?_name_eq {v : Value} (hv : v.IsType) :
    v.field? "name" = some (.str (TypeObject.ofValue v).name) := by
  obtain ⟨⟨⟨x, hx, s, rfl, -⟩, -⟩, -, -⟩ := hv
  rw [TypeObject.name_ofValue, hx]
  rfl

lemma nodup_names_iff {types : List Value} (h : ∀ t ∈ types, t.IsType) :
    ((types.map TypeObject.ofValue).map TypeObject.name).Nodup ↔
      (types.map (fun t => t.field? "name")).Nodup := by
  have hnames : types.map (fun t => t.field? "name") =
      ((types.map TypeObject.ofValue).map TypeObject.name).map (fun s => some (.str s)) := by
    rw [List.map_map, List.map_map]
    exact List.map_congr_left (fun t ht => field?_name_eq (h t ht))
  have hinj : Function.Injective (fun s : String => some (Value.str s)) := by
    intro s t hst
    simpa using hst
  rw [hnames, List.nodup_map_iff hinj]

/-- The rules on source files and names, for the types of a document. -/
lemma structureIssues_eq_nil_iff {types : List Value} (h : ∀ t ∈ types, t.IsType) :
    structureIssues (types.map TypeObject.ofValue) = [] ↔
      (∀ t ∈ types, t.Requires "source_file" IsNonEmptyText) ∧
        (types.map (fun t => t.field? "name")).Nodup ∧
        ∀ t ∈ types, ∀ u, TypeWithin t u →
          ∀ s, u.field? "source_file" = some (.str s) → isRooted s = false := by
  rw [structureIssues, topIssues_eq_nil_iff, nodup_names_iff h]
  simp only [List.forall_mem_map, List.not_mem_nil, not_false_eq_true, implies_true, true_and]
  refine and_congr ?_ (and_congr_right (fun _ => ?_))
  · exact forall₂_congr (fun t ht => source?_ofValue_iff (h t ht))
  · constructor
    · intro hissues t ht
      obtain ⟨i, hi, rfl⟩ := List.getElem_of_mem ht
      refine (sourceIssues_ofValue_eq_nil_iff (h _ ht) _).mp
        (hissues (TypeObject.ofValue types[i], i) ?_)
      simp [List.mk_mem_zipIdx_iff_getElem?, hi]
    · intro hrelative e he
      obtain ⟨t, ht, heq⟩ := List.mem_map.mp (List.fst_mem_of_mem_zipIdx he)
      rw [← heq]
      exact (sourceIssues_ofValue_eq_nil_iff (h t ht) _).mpr (hrelative t ht)

lemma typeObjects_of_list {es : Entries} {types : List Value}
    (h : (Value.map es).field? "types" = some (.list types)) :
    Model.typeObjects es = types.map TypeObject.ofValue := by
  rw [field?_map] at h
  rw [Model.typeObjects, h, ← TypeObject.ofItems_eq_map]
  rfl

lemma Value.IsDocument.admits {v : Value} {types : List Value} (hv : v.IsJson)
    (h : v.IsDocument types) : Schema.document.Admits v :=
  (Schema.admits_document_iff hv).mpr
    ⟨h.version, h.namespaceName, ⟨_, h.types_eq, types, rfl, h.isType⟩⟩

/-- A value without issues is a document. -/
lemma isDocument_of_documentIssues {v : Value} (h : Model.documentIssues v = []) :
    ∃ types, v.IsDocument types := by
  rw [Model.documentIssues.eq_def] at h
  split at h
  · rename_i hschema
    obtain ⟨hversion, hname, x, hx, types, rfl, htypes⟩ :=
      Schema.requires_of_admits_document hschema
    obtain ⟨es, rfl⟩ := exists_map_of_field? hx
    simp only [typeObjects_of_list hx] at h
    obtain ⟨hsource, hdistinct, hrelative⟩ := (structureIssues_eq_nil_iff htypes).mp h
    exact ⟨types, hversion, hname, hx, htypes, hsource, hdistinct, hrelative⟩
  · rename_i hschema
    exact absurd h hschema

/-- A JSON value has no issues exactly if it is a document. -/
lemma documentIssues_eq_nil_iff {v : Value} (hv : v.IsJson) :
    Model.documentIssues v = [] ↔ ∃ types, v.IsDocument types := by
  refine ⟨isDocument_of_documentIssues, ?_⟩
  rintro ⟨types, hdoc⟩
  have hschema : Schema.documentIssues v = [] := hdoc.admits hv
  obtain ⟨es, rfl⟩ := exists_map_of_field? hdoc.types_eq
  simp only [Model.documentIssues.eq_def, hschema, typeObjects_of_list hdoc.types_eq]
  exact (structureIssues_eq_nil_iff hdoc.isType).mpr
    ⟨hdoc.sourceFile, hdoc.distinct, hdoc.relative⟩

/-- Every issue of a JSON value has a message, also those that the schema does not express. -/
lemma documentIssues_hasMessage {v : Value} (hv : v.IsJson) :
    ∀ i ∈ Model.documentIssues v, i.problem.hasMessage = true := by
  rw [Model.documentIssues.eq_def]
  split
  · split
    · exact topIssues_hasMessage _ _ _ _
    · simp
  · exact Schema.issues_hasMessage hv _ _

end DataContract
