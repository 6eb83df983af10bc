/-
Which documents hold a model.

A JSON value is read as a model exactly if it is a contract document of a
supported version.  Every other JSON value is refused with its issues or with its
version: no reader of a single part comes to fail.
-/
import DataContract.Proofs.Model.Reading

namespace DataContract

open Value

namespace Model

/-! ### Versions -/

lemma majorVersion_eq_iff {s : String} (h : Pattern.version.Matches s) :
    majorVersion s = majorVersion supportedVersion ↔ ∃ rest, s.toList = '1' :: '.' :: rest := by
  have hsupported : majorVersion supportedVersion = String.ofList ['1'] := by decide
  rw [hsupported, majorVersion, String.ofList_inj]
  constructor
  · intro hmajor
    -- what stands before the first point of a version are the digits of its first number
    obtain ⟨b, ⟨major, minor, rfl, hdigits, -⟩, hs⟩ := h
    have hwhile : ∀ t, (major ++ '.' :: t).takeWhile (· != '.') = major := by
      intro t
      rw [List.takeWhile_append_of_pos]
      · simp
      · intro c hc
        have hne : c ≠ '.' := fun heq => hdigits.notMem Pattern.isDecimal_point (heq ▸ hc)
        simpa using hne
    rcases hs with hs | hs
    · rw [hs, hwhile] at hmajor
      exact ⟨minor, by rw [hs, hmajor]; rfl⟩
    · rw [hs, List.append_assoc, List.cons_append, hwhile] at hmajor
      exact ⟨minor ++ ['\n'], by rw [hs, hmajor]; rfl⟩
  · rintro ⟨rest, hs⟩
    simp [hs]

/-! ### Reading a document -/

lemma ofValue_of_issues {v : Value} (hv : v.IsJson) (h : documentIssues v ≠ []) :
    ofValue v = .error (.reported (.issues (documentIssues v))) := by
  have hall : (documentIssues v).all (fun i => i.problem.hasMessage) = true :=
    List.all_eq_true.mpr (documentIssues_hasMessage hv)
  rw [ofValue.eq_def]
  split
  · rename_i hnil
    exact absurd hnil h
  · rw [if_pos hall]

lemma ofValue_of_version {es : Entries} (h : documentIssues (.map es) = []) {s : String}
    (hs : es.text "ir_version" = .ok s) :
    ofValue (.map es) =
      if majorVersion s ≠ majorVersion supportedVersion then .error (.reported (.version s))
      else (readParts s es).mapError .crash := by
  rw [ofValue.eq_def, h]
  change ((es.text "ir_version").mapError Failure.crash >>= _) = _
  rw [hs]
  rfl

/-- The parts of a document are read, unless a constant of its types has no text. -/
lemma readParts_failsIff {es : Entries} {types : List Value} (h : (Value.map es).IsDocument types)
    (version : String) :
    FailsIff (readParts version es) (.document .tooManyDigits)
      (∃ t ∈ types, t.HasTextlessConstant) := by
  rw [readParts, typeObjects_of_list h.types_eq]
  refine FailsIff.bind_succeeds
    (Entries.text_succeeds h.namespaceName (fun _ => IsNonEmptyText.isText)) (fun name => ?_)
  exact FailsIff.bind_right (readTypes_failsIff (fun t ht => readType_failsIff (h.isType t ht) _))
    (fun ts => Succeeds.ok _)

/-- What reading a document without issues comes to. -/
lemma ofValue_of_isDocument {v : Value} {types : List Value} (h : v.IsDocument types)
    (hnil : documentIssues v = []) :
    (v.HasSupportedVersion → FailsIff (ofValue v) (.crash (.document .tooManyDigits))
      (∃ t ∈ types, t.HasTextlessConstant)) ∧
      (¬ v.HasSupportedVersion → ∃ found, ofValue v = .error (.reported (.version found))) := by
  obtain ⟨x, hx, s, rfl, hs⟩ := h.version
  obtain ⟨es, rfl⟩ := exists_map_of_field? hx
  have htext : es.text "ir_version" = .ok s := by
    rw [field?_map] at hx
    rw [Entries.text, hx]
  have hversion : (Value.map es).HasSupportedVersion ↔
      majorVersion s = majorVersion supportedVersion := by
    rw [majorVersion_eq_iff hs]
    constructor
    · rintro ⟨s', rest, hs', hrest⟩
      rw [hx, Option.some.injEq, Value.str.injEq] at hs'
      exact ⟨rest, hs' ▸ hrest⟩
    · rintro ⟨rest, hrest⟩
      exact ⟨s, rest, hx, hrest⟩
  rw [hversion, ofValue_of_version hnil htext]
  constructor
  · intro hsame
    rw [if_neg (not_not_intro hsame)]
    exact (readParts_failsIff h s).mapError _
  · intro hne
    exact ⟨s, by rw [if_pos hne]⟩

lemma ofValue_of_document {v : Value} (hv : v.IsJson) {types : List Value}
    (h : v.IsDocument types) :
    (v.HasSupportedVersion → ∃ m, ofValue v = .ok m) ∧
      (¬ v.HasSupportedVersion → ∃ found, ofValue v = .error (.reported (.version found))) := by
  have hnil : documentIssues v = [] := (documentIssues_eq_nil_iff hv).mpr ⟨types, h⟩
  obtain ⟨hsupported, hother⟩ := ofValue_of_isDocument h hnil
  refine ⟨fun hversion => (hsupported hversion).succeeds ?_, hother⟩
  rintro ⟨t, ht, htextless⟩
  have hjson := isJson_list_iff.mp (hv.of_field? h.types_eq) t ht
  exact hjson.not_hasTextlessConstant htextless

/-- Something that has to be quoted has no text: the tag of a member in the message of an issue, or
the value of a constant in a document without issues. -/
def LacksText (v : Value) : Prop :=
  (∃ i ∈ documentIssues v, i.problem.hasMessage = false) ∨
    documentIssues v = [] ∧ v.HasSupportedVersion ∧ ∃ t, v.HasItem "types" t ∧ t.HasTextlessConstant

/-- Reading a value crashes for one cause only. -/
lemma ofValue_eq_crash_iff {v : Value} {c : Crash} :
    ofValue v = .error (.crash c) ↔ c = .document .tooManyDigits ∧ LacksText v := by
  by_cases hnil : documentIssues v = []
  · obtain ⟨types, hdoc⟩ := isDocument_of_documentIssues hnil
    obtain ⟨hsupported, hother⟩ := ofValue_of_isDocument hdoc hnil
    have hitems : ∀ t, t ∈ types ↔ v.HasItem "types" t := by
      intro t
      simp [HasItem, hdoc.types_eq]
    by_cases hversion : v.HasSupportedVersion
    · have hlacks : LacksText v ↔ ∃ t ∈ types, t.HasTextlessConstant := by
        simp [LacksText, hnil, hversion, hitems]
      rw [(hsupported hversion).error_iff, Failure.crash.injEq, hlacks]
    · obtain ⟨found, hfound⟩ := hother hversion
      simp [hfound, LacksText, hnil, hversion]
  · have hlacks : LacksText v ↔ (documentIssues v).all (fun i => i.problem.hasMessage) = false := by
      simp [LacksText, hnil]
    rw [hlacks, ofValue.eq_def]
    split
    · rename_i hempty
      exact absurd hempty hnil
    · cases (documentIssues v).all (fun i => i.problem.hasMessage) with
      | true => simp
      | false => simp [eq_comm]

lemma not_lacksText_of_isJson {v : Value} (hv : v.IsJson) : ¬ LacksText v := by
  rintro (⟨i, hi, hmessage⟩ | ⟨-, -, t, ht, htextless⟩)
  · exact Bool.false_ne_true (hmessage.symm.trans (documentIssues_hasMessage hv i hi))
  · exact (hv.of_hasItem ht).not_hasTextlessConstant htextless

/-! ### The language of the reader -/

/-- **A JSON value holds a model exactly if it is a contract document of a supported version.**
Any other JSON value is refused, with all its issues or with its version, and in no other way. -/
theorem ofValue_ok_iff_isDocument {v : Value} (hv : v.IsJson) :
    ((∃ m, ofValue v = .ok m) ↔ (∃ types, v.IsDocument types) ∧ v.HasSupportedVersion) ∧
      ∀ failure, ofValue v = .error failure →
        (∃ i rest, failure = .reported (.issues (i :: rest))) ∨
          ∃ found, failure = .reported (.version found) := by
  by_cases hdoc : ∃ types, v.IsDocument types
  · obtain ⟨types, h⟩ := id hdoc
    obtain ⟨hread, hrefuse⟩ := ofValue_of_document hv h
    by_cases hversion : v.HasSupportedVersion
    · obtain ⟨m, hm⟩ := hread hversion
      refine ⟨⟨fun _ => ⟨hdoc, hversion⟩, fun _ => ⟨m, hm⟩⟩, fun failure hfailure => ?_⟩
      rw [hm] at hfailure
      cases hfailure
    · obtain ⟨found, hfound⟩ := hrefuse hversion
      refine ⟨⟨?_, fun hd => absurd hd.2 hversion⟩, fun failure hfailure => Or.inr ⟨found, ?_⟩⟩
      · rintro ⟨m, hm⟩
        rw [hfound] at hm
        cases hm
      · rw [hfound, Except.error.injEq] at hfailure
        exact hfailure.symm
  · have hne : documentIssues v ≠ [] := fun hnil => hdoc ((documentIssues_eq_nil_iff hv).mp hnil)
    have hissues := ofValue_of_issues hv hne
    obtain ⟨i, rest, heq⟩ := List.exists_cons_of_ne_nil hne
    rw [heq] at hissues
    refine ⟨⟨?_, fun hd => absurd hd.1 hdoc⟩, fun failure hfailure => Or.inl ⟨i, rest, ?_⟩⟩
    · rintro ⟨m, hm⟩
      rw [hissues] at hm
      cases hm
    · rw [hissues, Except.error.injEq] at hfailure
      exact hfailure.symm

/-- A document with a type nested in another one. -/
def nestedExample : Value :=
  .map [(.str "ir_version", .str "1.0"), (.str "namespace", .str "Tunnels"),
    (.str "types", .list [.map [(.str "name", .str "Port"), (.str "source_file", .str "Port.cs"),
      (.str "members", .list [.map [(.str "member", .str "const_field"), (.str "name", .str "Max"),
        (.str "type", .str "int[]?"), (.str "value", .list [.int 8080, .null])]]),
      (.str "nested_types",
        .list [.map [(.str "name", .str "Kind"), (.str "kind", .str "enum")]])]])]

theorem ofValue_nestedExample :
    nestedExample.IsJson ∧ (∃ types, nestedExample.IsDocument types) ∧
      nestedExample.HasSupportedVersion := by
  have hjson : nestedExample.IsJson := by
    have hint : isWritable 8080 = true := by decide +kernel
    simp [nestedExample, hint]
  have hok : (ofValue nestedExample).isOk = true := by decide +kernel
  exact ⟨hjson, (ofValue_ok_iff_isDocument hjson).1.mp (Succeeds.of_isOk hok)⟩

end Model

end DataContract
