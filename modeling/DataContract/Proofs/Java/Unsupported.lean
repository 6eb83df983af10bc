/-
Which types have no file.

The types of a model have relative source files, so the file of one of them can
only fail for a reference without a Java type.  It does so exactly if there is
one among the references that are written, and it names the first of them.  Apart
from that, only an obstacle keeps a file from being written.
-/
import DataContract.Generator
import DataContract.Java.Limit
import DataContract.Proofs.Java.Rendering
import DataContract.Proofs.Java.Writing
import DataContract.Proofs.Model.Origin

namespace DataContract.Java

namespace TypeTable

/-- The first reference of a list without a Java type. -/
def FirstUnsupported (t : TypeTable) (refs : List Reference) (r : Reference) : Prop :=
  ∃ before after, refs = before ++ r :: after ∧ (∀ p ∈ before, t.Supports p.type.base) ∧
    ¬ t.Supports r.type.base

variable {t : TypeTable} {refs : List Reference}

lemma unsupported?_eq_none_iff {r : Reference} :
    t.unsupported? r = none ↔ t.Supports r.type.base := by
  rw [Option.eq_none_iff_forall_ne_some]
  constructor
  · intro h
    by_contra hr
    exact h _ (unsupported?_eq_some_iff.mpr ⟨hr, rfl⟩)
  · intro h e he
    exact (unsupported?_eq_some_iff.mp he).1 h

/-- The failure of a list of references is that of the first one without a Java type. -/
lemma findSome?_unsupported?_iff {e : UnsupportedType} :
    refs.findSome? t.unsupported? = some e ↔
      ∃ r, t.FirstUnsupported refs r ∧ e = ⟨r.type.base, r.member⟩ := by
  simp only [List.findSome?_eq_some_iff, unsupported?_eq_none_iff, unsupported?_eq_some_iff]
  constructor
  · rintro ⟨before, r, after, hrefs, ⟨hr, he⟩, hbefore⟩
    exact ⟨r, ⟨before, after, hrefs, hbefore, hr⟩, he⟩
  · rintro ⟨r, ⟨before, after, hrefs, hbefore, hr⟩, he⟩
    exact ⟨before, r, after, hrefs, ⟨hr, he⟩, hbefore⟩

/-- There is a first reference without a Java type if there is any. -/
lemma exists_firstUnsupported_iff :
    (∃ r, t.FirstUnsupported refs r) ↔ ∃ r ∈ refs, ¬ t.Supports r.type.base := by
  constructor
  · rintro ⟨r, before, after, rfl, -, hr⟩
    exact ⟨r, by simp, hr⟩
  · rintro ⟨r, hr, hunsupported⟩
    cases hfirst : refs.findSome? t.unsupported? with
    | some e =>
      obtain ⟨s, hs, -⟩ := findSome?_unsupported?_iff.mp hfirst
      exact ⟨s, hs⟩
    | none =>
      -- if none of the references fails, then this one has a Java type too
      have hnone := List.findSome?_eq_none_iff.mp hfirst r hr
      exact absurd (unsupported?_eq_none_iff.mp hnone) hunsupported

end TypeTable

namespace Writer

variable {w : Writer} {config : Config} {excluded : String → Bool} {t : ContractType}

/-- The file of a type with a relative source fails as its draft does. -/
lemma emit_eq_error_iff_first (hsource : isRooted (sourceOf t.decl) = false) {e : EmitError} :
    (w.emit config excluded t).outcome = .error e ↔
      ∃ r, w.table.FirstUnsupported (renderedReferences excluded t) r ∧
        e = .unsupported ⟨r.type.base, r.member⟩ := by
  have hdraft := (w.toDialect.type_collects excluded t false).error_iff
  simp only [emit_eq_error_iff, hsource, hdraft, TypeTable.findSome?_unsupported?_iff]
  constructor
  · rintro (⟨h, -⟩ | ⟨-, cause, ⟨r, hr, rfl⟩, rfl⟩)
    · cases h
    · exact ⟨r, hr, rfl⟩
  · rintro ⟨r, hr, rfl⟩
    exact .inr ⟨trivial, _, ⟨r, hr, rfl⟩, rfl⟩

/-- Without an obstacle the limits change nothing. -/
lemma emitWithin_of_no_obstacle (h : w.obstacle? config excluded t = none) :
    w.emitWithin config excluded t =
      ⟨(w.emit config excluded t).outcome.mapError .reported,
        (w.emit config excluded t).notices⟩ := by
  rw [emitWithin, h]

/-- Writing a file crashes exactly for an obstacle. -/
lemma emitWithin_eq_crash_iff {c : Crash} :
    (w.emitWithin config excluded t).outcome = .error (.crash c) ↔
      w.obstacle? config excluded t = some c := by
  cases hobstacle : w.obstacle? config excluded t with
  | some c' => simp [emitWithin, hobstacle]
  | none =>
    rw [emitWithin_of_no_obstacle hobstacle]
    refine iff_of_false (fun h => ?_) nofun
    cases hout : (w.emit config excluded t).outcome <;> rw [hout] at h <;> cases h

end Writer

end DataContract.Java

namespace DataContract.Generator

open DataContract.Java

/-- A namespace that is null or a text can be used: the text, or that of the model. -/
lemma create_eq_ok (m : Model) {config : Config}
    (h : config.namespaceSetting = .null ∨ ∃ s, config.namespaceSetting = .str s) :
    ∃ ns, (config.namespaceSetting = .str ns ∨ ns = m.namespaceName) ∧
      create m config "java" = .ok ⟨m, config, Writer.standard ns config⟩ := by
  have hcreate : ∀ ns, namespaceOf m config = .ok ns →
      create m config "java" = .ok ⟨m, config, Writer.standard ns config⟩ := by
    intro ns hns
    rw [create, hns]
    rfl
  obtain hnull | ⟨s, hs⟩ := h
  · refine ⟨m.namespaceName, .inr rfl, hcreate _ ?_⟩
    rw [namespaceOf, hnull]
    rfl
  · by_cases hempty : s = ""
    · refine ⟨m.namespaceName, .inr rfl, hcreate _ ?_⟩
      rw [namespaceOf, hs]
      simp [hempty]
    · refine ⟨s, .inl hs, hcreate _ ?_⟩
      rw [namespaceOf, hs]
      simp [hempty]

/-- **The file of a type of a model fails exactly for the first reference without a Java type.**
Only the references of the classes that the file renders count, and of their methods only those of
the public static ones; the failure names the type and its member.  The limits of what can be
written add the crashes for an obstacle to that, and change nothing where there is none. -/
theorem emit_error_iff_firstUnsupported {v : Value} {m : Model} (hv : Model.ofValue v = .ok m)
    {config : Config}
    (hconfig : config.namespaceSetting = .null ∨ ∃ s, config.namespaceSetting = .str s) :
    ∃ ns, (config.namespaceSetting = .str ns ∨ ns = m.namespaceName) ∧
      create m config "java" = .ok ⟨m, config, Writer.standard ns config⟩ ∧
      ∀ (excluded : String → Bool), ∀ t ∈ m.types,
        ((∃ e, ((Writer.standard ns config).emit config excluded t).outcome = .error e) ↔
          ∃ u, Rendered excluded t u ∧ u.decl.isEnum = false ∧
            ∃ r ∈ classReferences u.decl, ¬ (TypeTable.standard ns).Supports r.type.base) ∧
        (∀ e, ((Writer.standard ns config).emit config excluded t).outcome = .error e ↔
          ∃ r, (TypeTable.standard ns).FirstUnsupported (renderedReferences excluded t) r ∧
            e = .unsupported ⟨r.type.base, r.member⟩) ∧
        (∀ c, ((Writer.standard ns config).emitWithin config excluded t).outcome =
            .error (.crash c) ↔ (Writer.standard ns config).obstacle? config excluded t = some c) ∧
        ((Writer.standard ns config).obstacle? config excluded t = none →
          (Writer.standard ns config).emitWithin config excluded t =
            ⟨((Writer.standard ns config).emit config excluded t).outcome.mapError .reported,
              ((Writer.standard ns config).emit config excluded t).notices⟩) := by
  obtain ⟨ns, hns, hcreate⟩ := create_eq_ok m hconfig
  refine ⟨ns, hns, hcreate, fun excluded t ht => ?_⟩
  have hsource : isRooted (Writer.sourceOf t.decl) = false := by
    obtain ⟨hne, hrelative⟩ := Model.sourceFile_of_ofValue hv t ht
    simp [Writer.sourceOf, hne, hrelative]
  have hfirst : ∀ e, ((Writer.standard ns config).emit config excluded t).outcome = .error e ↔
      ∃ r, (TypeTable.standard ns).FirstUnsupported (renderedReferences excluded t) r ∧
        e = .unsupported ⟨r.type.base, r.member⟩ :=
    fun e => Writer.emit_eq_error_iff_first hsource
  refine ⟨?_, hfirst, fun c => Writer.emitWithin_eq_crash_iff, Writer.emitWithin_of_no_obstacle⟩
  calc (∃ e, ((Writer.standard ns config).emit config excluded t).outcome = .error e)
      ↔ ∃ r, (TypeTable.standard ns).FirstUnsupported (renderedReferences excluded t) r := by
        simp only [hfirst]
        constructor
        · rintro ⟨e, r, hr, -⟩
          exact ⟨r, hr⟩
        · rintro ⟨r, hr⟩
          exact ⟨_, r, hr, rfl⟩
    _ ↔ ∃ r ∈ renderedReferences excluded t, ¬ (TypeTable.standard ns).Supports r.type.base :=
        TypeTable.exists_firstUnsupported_iff
    _ ↔ _ := exists_renderedReferences_iff

/-- A class whose constructor and property use types that are not known. -/
def unsupportedExample : Value :=
  .map [(.str "ir_version", .str "1.0"), (.str "namespace", .str "Tunnels"),
    (.str "types", .list [.map [(.str "name", .str "Port"), (.str "source_file", .str "Port.cs"),
      (.str "members", .list [
        .map [(.str "member", .str "property"), (.str "name", .str "Link"),
          (.str "type", .str "Links.Link")],
        .map [(.str "member", .str "constructor"), (.str "name", .str "Port"),
          (.str "parameters", .list [
            .map [(.str "name", .str "kind"), (.str "type", .str "Tunnels.Kind")],
            .map [(.str "name", .str "host"), (.str "type", .str "Net.Host[]?")]])]])]])]

theorem emit_unsupportedExample :
    ∃ m, Model.ofValue unsupportedExample = .ok m ∧ Config.default.namespaceSetting = .null ∧
      ∃ t ∈ m.types, ∃ r, (TypeTable.standard m.namespaceName).FirstUnsupported
        (renderedReferences (fun _ => false) t) r ∧
        r.type.base = "Net.Host" ∧ r.member = "Port(host)" := by
  have hfails : ∃ m, Model.ofValue unsupportedExample = .ok m ∧ ∃ t ∈ m.types,
      ((Writer.standard m.namespaceName .default).emit .default (fun _ => false) t).outcome =
        .error (.unsupported ⟨"Net.Host", "Port(host)"⟩) := by
    have hany : (Model.ofValue unsupportedExample).toOption.any (fun m => m.types.any (fun t =>
        ((Writer.standard m.namespaceName .default).emit .default (fun _ => false) t).outcome =
          .error (.unsupported ⟨"Net.Host", "Port(host)"⟩))) = true := by
      decide +kernel
    obtain ⟨m, hm, hany⟩ := (Option.any_eq_true _ _).mp hany
    obtain ⟨t, ht, hfail⟩ := List.any_eq_true.mp hany
    exact ⟨m, eq_ok_of_toOption hm, t, ht, of_decide_eq_true hfail⟩
  obtain ⟨m, hm, t, ht, hfail⟩ := hfails
  have hconfig : Config.default.namespaceSetting = .null ∨
      ∃ s, Config.default.namespaceSetting = .str s := .inl rfl
  obtain ⟨ns, hns, -, hemit⟩ := emit_error_iff_firstUnsupported hm hconfig
  have hname : ns = m.namespaceName := hns.resolve_left (by rintro ⟨⟩)
  rw [hname] at hemit
  obtain ⟨r, hr, heq⟩ := ((hemit (fun _ => false) t ht).2.1 _).mp hfail
  simp only [EmitError.unsupported.injEq, UnsupportedType.mk.injEq] at heq
  exact ⟨m, hm, rfl, t, ht, r, hr, heq.1.symm, heq.2.symm⟩

end DataContract.Generator
