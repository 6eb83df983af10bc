/-
The rules on source files and names, problem by problem.

In a document that the schema admits, a type at the top has an issue if it names
no source file and one if an earlier type has its name, and every type in it has
an issue if its source file is rooted, at the place where it stands.  These are
all issues, each comes once, and they come in the order of the document.
-/
import DataContract.Proofs.Model.Acceptance
import DataContract.Proofs.Model.TypeSites

namespace DataContract

open Value

/-- The text under a name; it is empty if there is none. -/
def Value.textUnder (v : Value) (name : String) : String :=
  ((v.field? name).bind asStr?).getD ""

/-- The issue of a type in the one with an index at the top whose source file is rooted. -/
def TypeSite.rootedIssue? (index : Nat) (s : TypeSite) : Option Issue :=
  let source := s.object.textUnder "source_file"
  if source ≠ "" ∧ isRooted source = true then
    some ⟨(Location.ofType index s.indices).entry "source_file", .rootedSource source⟩
  else none

/-- The issues of the type with an index among those at the top. -/
def ruleIssues (types : List Value) (index : Nat) (t : Value) : List Issue :=
  (if t.textUnder "source_file" = "" then
    [⟨Location.ofType index [], .noSourceFile (t.textUnder "name")⟩] else [])
  ++ (if t.textUnder "name" ∈ (types.take index).map (fun u => u.textUnder "name") then
    [⟨Location.ofType index [], .duplicate (t.textUnder "name")⟩] else [])
  ++ t.typeSites.filterMap (TypeSite.rootedIssue? index)

/-! ### Source files at every depth -/

/-- The issues of a type object: its own one, and those of the type objects nested in it. -/
lemma sourceIssues_eq (place : Location) (t : TypeObject) :
    sourceIssues place t =
      (if isRooted (t.source?.getD "") = true then
        [⟨place.entry "source_file", .rootedSource (t.source?.getD "")⟩] else [])
      ++ t.nested.zipIdx.flatMap (fun e => sourceIssues (place.item "nested_types" e.2) e.1) := by
  obtain ⟨es, ns⟩ := t
  have hitem : ∀ j, place ++ [.field TypeObject.nestedKey] ++ [.item j] =
      place.item "nested_types" j := by
    intro j
    rw [Location.item_eq]
    rfl
  rw [sourceIssues, nestedSourceIssues_eq_flatMap]
  simp only [hitem]
  refine congrArg (· ++ _) ?_
  cases (TypeObject.mk es ns).source? with
  | none => rfl
  | some source => rfl

lemma source?_getD (v : Value) :
    (TypeObject.ofValue v).source?.getD "" = v.textUnder "source_file" := by
  rw [TypeObject.source?_ofValue, textUnder]
  cases v.field? "source_file" with
  | none => rfl
  | some x => rfl

/-- The source files that are not relative are those of the type objects in document order. -/
lemma sourceIssues_ofValue (index : Nat) (indices : List Nat) (containers : List Value)
    (v : Value) :
    sourceIssues (Location.ofType index indices) (TypeObject.ofValue v) =
      (typeSitesFrom indices containers v).filterMap (TypeSite.rootedIssue? index) := by
  induction v using nestedTypeInduction generalizing indices containers with
  | step v ih =>
    have hempty : isRooted "" = false := rfl
    have hown : (if isRooted (v.textUnder "source_file") = true then
          [(⟨(Location.ofType index indices).entry "source_file",
            .rootedSource (v.textUnder "source_file")⟩ : Issue)] else []) =
        (TypeSite.rootedIssue? index ⟨indices, v, containers⟩).toList := by
      by_cases hsource : v.textUnder "source_file" = ""
      · simp [TypeSite.rootedIssue?, hsource, hempty]
      · by_cases hrooted : isRooted (v.textUnder "source_file") = true
        · simp [TypeSite.rootedIssue?, hsource, hrooted]
        · simp [TypeSite.rootedIssue?, hrooted]
    rw [sourceIssues_eq, source?_getD, hown, TypeObject.nested_ofValue_eq_map, typeSitesFrom_eq,
      List.filterMap_cons, List.zipIdx_map, List.flatMap_map, List.filterMap_flatMap]
    have hnested : ∀ e ∈ (v.itemsOf "nested_types").zipIdx,
        sourceIssues ((Location.ofType index indices).item "nested_types" e.2)
            (TypeObject.ofValue e.1) =
          (typeSitesFrom (indices ++ [e.2]) (v :: containers) e.1).filterMap
            (TypeSite.rootedIssue? index) := by
      intro e he
      rw [← Location.ofType_concat]
      exact ih e.1 (List.fst_mem_of_mem_zipIdx he) _ _
    rw [← List.flatMap_congr hnested]
    cases TypeSite.rootedIssue? index ⟨indices, v, containers⟩ with
    | none => rfl
    | some issue => rfl

/-! ### Types at the top -/

/-- The issues of the types behind others, if the names of those are the ones that were seen. -/
lemma topIssues_ofValue (before rest : List Value) {seen : List String}
    (hseen : ∀ name, name ∈ seen ↔ name ∈ before.map (fun u => u.textUnder "name")) :
    topIssues [.field "types"] before.length seen (rest.map TypeObject.ofValue) =
      (rest.zipIdx before.length).flatMap (fun e => ruleIssues (before ++ rest) e.2 e.1) := by
  induction rest generalizing before seen with
  | nil => rfl
  | cons t rest ih =>
    have hname : (TypeObject.ofValue t).name = t.textUnder "name" := TypeObject.name_ofValue t
    have hsource : (TypeObject.ofValue t).source?.all (· == "") = true ↔
        t.textUnder "source_file" = "" := by
      rw [← source?_getD]
      cases (TypeObject.ofValue t).source? <;> simp
    have hmem : seen.contains (t.textUnder "name") = true ↔
        t.textUnder "name" ∈ before.map (fun u => u.textUnder "name") := by
      rw [List.contains_iff_mem]
      exact hseen _
    have hhere : ([.field "types"] ++ [.item before.length] : Location) =
        Location.ofType before.length [] := rfl
    -- for what comes next, this type is one of those before
    have hseen' : ∀ name, name ∈ t.textUnder "name" :: seen ↔
        name ∈ (before ++ [t]).map (fun u => u.textUnder "name") := by
      intro name
      simp only [List.mem_cons, hseen, List.map_append, List.map_singleton, List.mem_append,
        List.not_mem_nil, or_false]
      exact or_comm
    have hnext := ih (before ++ [t]) hseen'
    rw [List.append_assoc, List.singleton_append, List.length_append, List.length_singleton]
      at hnext
    rw [List.map_cons, topIssues, List.zipIdx_cons, List.flatMap_cons, hname]
    simp only [hhere, hnext, ruleIssues, hsource, hmem, typeSites, sourceIssues_ofValue _ [] [],
      List.take_left']

namespace Model

/-- All issues of a document that the schema admits. -/
lemma documentIssues_of_admits {v : Value} (h : Schema.documentIssues v = []) {types : List Value}
    (htypes : v.field? "types" = some (.list types)) :
    documentIssues v = types.zipIdx.flatMap (fun e => ruleIssues types e.2 e.1) := by
  obtain ⟨es, rfl⟩ := exists_map_of_field? htypes
  simp only [documentIssues.eq_def, h, typeObjects_of_list htypes]
  exact topIssues_ofValue [] types (by simp)

/-- A document that the schema admits is refused for its issues exactly if it has any. -/
lemma ofValue_eq_issues_iff {v : Value} (h : Schema.documentIssues v = []) {l : List Issue} :
    ofValue v = .error (.reported (.issues l)) ↔ documentIssues v ≠ [] ∧ l = documentIssues v := by
  by_cases hnil : documentIssues v = []
  · obtain ⟨types, hdoc⟩ := isDocument_of_documentIssues hnil
    obtain ⟨hsupported, hother⟩ := ofValue_of_isDocument hdoc hnil
    by_cases hversion : v.HasSupportedVersion
    · simp [(hsupported hversion).error_iff, hnil]
    · obtain ⟨found, hfound⟩ := hother hversion
      simp [hfound, hnil]
  · have hall : (documentIssues v).all (fun i => i.problem.hasMessage) = true := by
      rw [List.all_eq_true]
      intro i hi
      rw [documentIssues.eq_def, h] at hi
      cases v with
      | map es => exact topIssues_hasMessage _ _ _ _ i hi
      | _ => cases hi
    rw [ofValue.eq_def]
    split
    · rename_i hempty
      exact absurd hempty hnil
    · simp [hall, hnil, eq_comm]

/-- **Every structural problem is reported exactly once.**  A document that the schema admits lists
types, and its issues are those of the types at the top, one type after another.  The types in one
at the top are met in the order of their indices, and they are exactly what is found at the places
with these indices; so every type with a rooted source file has one issue, at the place that selects
it.  The document is refused with this list exactly if there is an issue. -/
theorem structure_problems_reported_once {v : Value} (h : Schema.documentIssues v = []) :
    ∃ types, v.field? "types" = some (.list types) ∧ (∀ t ∈ types, t.IsType) ∧
      documentIssues v = types.zipIdx.flatMap (fun e => ruleIssues types e.2 e.1) ∧
      (∀ l, ofValue v = .error (.reported (.issues l)) ↔
        documentIssues v ≠ [] ∧ l = documentIssues v) ∧
      ∀ index t, types[index]? = some t →
        t.typeSites.Pairwise (fun s u => List.Lex (· < ·) s.indices u.indices) ∧
        (∀ indices u, v.at? (Location.ofType index indices) = some u ↔
          ∃ s ∈ t.typeSites, s.indices = indices ∧ s.object = u) ∧
        ∀ indices, ((Location.ofType index indices).entry "source_file").text =
          ".types[" ++ toString index ++ "]" ++
            String.join (indices.map (fun j => ".nested_types[" ++ toString j ++ "]")) ++
            ".source_file" := by
  obtain ⟨-, -, x, htypes, types, rfl, htype⟩ := Schema.requires_of_admits_document h
  refine ⟨types, htypes, htype, documentIssues_of_admits h htypes,
    fun l => ofValue_eq_issues_iff h, ?_⟩
  intro index t ht
  refine ⟨typeSitesFrom_pairwise [] [] t, fun indices u => ?_, fun indices => ?_⟩
  · rw [Location.ofType, at?_item_append, itemsOf_of_list htypes, ht]
    exact mem_typeSites_iff.symm
  · have hne : Location.ofType index indices ≠ [] := by simp [Location.ofType, Location.item]
    rw [Location.entry, Location.text_append hne, Location.text_ofType]
    rfl

/-- A document in which two types have one name, one names no source file, and a source file is
rooted below each of them. -/
def rootedExample : Value :=
  .map [(.str "ir_version", .str "1.0"), (.str "namespace", .str "Tunnels"),
    (.str "types", .list [
      .map [(.str "name", .str "Port"), (.str "nested_types", .list [
        .map [(.str "name", .str "Kind")],
        .map [(.str "name", .str "Mode"), (.str "source_file", .str "/Mode.cs")]])],
      .map [(.str "name", .str "Port"), (.str "source_file", .str "C:Port.cs")]])]

theorem structure_problems_rootedExample :
    Schema.documentIssues rootedExample = [] ∧
      ofValue rootedExample = .error (.reported (.issues (documentIssues rootedExample))) ∧
      (documentIssues rootedExample).map Issue.message = [
        ".types[0]: top-level type 'Port' has no source_file",
        ".types[0].nested_types[1].source_file: '/Mode.cs' must be relative to the repository root",
        ".types[1]: duplicate top-level type 'Port'",
        ".types[1].source_file: 'C:Port.cs' must be relative to the repository root"] := by
  have hschema : Schema.documentIssues rootedExample = [] := rfl
  have hmessages : (documentIssues rootedExample).map Issue.message = [
      ".types[0]: top-level type 'Port' has no source_file",
      ".types[0].nested_types[1].source_file: '/Mode.cs' must be relative to the repository root",
      ".types[1]: duplicate top-level type 'Port'",
      ".types[1].source_file: 'C:Port.cs' must be relative to the repository root"] := by
    decide +kernel
  have hne : documentIssues rootedExample ≠ [] := by
    intro hnil
    rw [hnil] at hmessages
    cases hmessages
  obtain ⟨types, -, -, -, hrefused, -⟩ := structure_problems_reported_once hschema
  exact ⟨hschema, (hrefused _).mpr ⟨hne, rfl⟩, hmessages⟩

end Model

end DataContract
