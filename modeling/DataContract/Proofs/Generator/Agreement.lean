/-
One type or all of them.

A single type is looked up by its name, while a batch goes through all types.
Since no two types of a model have one name, the two agree on every name: the
file, the failure and the reason for having neither are the same.
-/
import DataContract.Proofs.Generator.Files

namespace DataContract

/-- With distinct names, the first type with a name is the only one. -/
lemma Model.find?_eq_some_iff {m : Model} (hnames : (m.types.map ContractType.name).Nodup)
    {name : String} {t : ContractType} :
    m.find? name = some t ↔ t ∈ m.types ∧ t.name = name :=
  find?_key_eq_some_iff hnames

namespace Generator

open DataContract.Java (EmitError GeneratedFile UnsupportedType)

variable {g : Generator}

/-! ### A single type -/

lemma mem_contractTypes {t : ContractType} :
    t ∈ g.contractTypes ↔ t ∈ g.model.types ∧ g.config.excludes t.name = false := by
  simp [contractTypes]

/-- A type that is not left out is rendered as it is generated. -/
lemma render_of_mem (hnames : (g.model.types.map ContractType.name).Nodup) {t : ContractType}
    (ht : t ∈ g.contractTypes) :
    (g.render t.name).1 = (g.emit t).outcome.mapError .emit := by
  obtain ⟨hmem, hkept⟩ := mem_contractTypes.mp ht
  rw [render, (Model.find?_eq_some_iff hnames).mpr ⟨hmem, rfl⟩]
  simp [hkept]

/-- What rendering a name comes to: no type has it, its type is left out, or it is generated. -/
lemma render_cases (hnames : (g.model.types.map ContractType.name).Nodup) (name : String) :
    (name ∉ g.model.types.map ContractType.name ∧ (g.render name).1 = .error (.notFound name)) ∨
      (name ∈ g.skipped ∧ (g.render name).1 = .error (.excluded name)) ∨
      ∃ t ∈ g.contractTypes, t.name = name ∧
        (g.render name).1 = (g.emit t).outcome.mapError .emit := by
  by_cases hmem : name ∈ g.model.types.map ContractType.name
  · right
    obtain ⟨t, ht, rfl⟩ := List.mem_map.mp hmem
    cases hexcluded : g.config.excludes t.name with
    | true =>
      refine .inl ⟨List.mem_filter.mpr ⟨hmem, hexcluded⟩, ?_⟩
      rw [render, (Model.find?_eq_some_iff hnames).mpr ⟨ht, rfl⟩]
      simp [hexcluded]
    | false =>
      have hkept := mem_contractTypes.mpr ⟨ht, hexcluded⟩
      exact .inr ⟨t, hkept, rfl, render_of_mem hnames hkept⟩
  · left
    refine ⟨hmem, ?_⟩
    have hnone : g.model.find? name = none := by
      rw [Model.find?, List.find?_eq_none]
      intro t ht hname
      exact hmem (List.mem_map.mpr ⟨t, ht, by simpa using hname⟩)
    rw [render, hnone]

lemma mem_skipped {name : String} :
    name ∈ g.skipped ↔ name ∈ g.model.types.map ContractType.name ∧ g.config.excludes name = true :=
  List.mem_filter

lemma mapError_emit_ne {x : Except EmitError GeneratedFile} {e : GeneratorError}
    (he : ∀ cause, e ≠ .emit cause) : x.mapError .emit ≠ .error e := by
  cases x with
  | ok file => rintro ⟨⟩
  | error cause =>
    rintro ⟨⟩
    exact he cause rfl

lemma render_eq_notFound_iff (hnames : (g.model.types.map ContractType.name).Nodup)
    {name : String} :
    (g.render name).1 = .error (.notFound name) ↔
      name ∉ g.model.types.map ContractType.name := by
  obtain ⟨hnone, h⟩ | ⟨hskipped, h⟩ | ⟨t, ht, rfl, h⟩ := render_cases hnames name
  · exact iff_of_true h hnone
  · exact iff_of_false (by simp [h]) (not_not.mpr (mem_skipped.mp hskipped).1)
  · have hmem : t.name ∈ g.model.types.map ContractType.name :=
      List.mem_map_of_mem (mem_contractTypes.mp ht).1
    exact iff_of_false (h ▸ mapError_emit_ne (by simp)) (not_not.mpr hmem)

lemma render_eq_excluded_iff (hnames : (g.model.types.map ContractType.name).Nodup)
    {name : String} :
    (g.render name).1 = .error (.excluded name) ↔ name ∈ g.skipped := by
  obtain ⟨hnone, h⟩ | ⟨hskipped, h⟩ | ⟨t, ht, rfl, h⟩ := render_cases hnames name
  · exact iff_of_false (by simp [h]) (fun hs => hnone (mem_skipped.mp hs).1)
  · exact iff_of_true h hskipped
  · refine iff_of_false (h ▸ mapError_emit_ne (by simp)) (fun hs => ?_)
    have hkept := (mem_contractTypes.mp ht).2
    rw [(mem_skipped.mp hs).2] at hkept
    cases hkept

lemma render_eq_ok_iff (hnames : (g.model.types.map ContractType.name).Nodup) {name : String}
    {file : GeneratedFile} :
    (g.render name).1 = .ok file ↔ file ∈ g.filesOf g.contractTypes ∧ file.typeName = name := by
  rw [mem_filesOf]
  constructor
  · intro hok
    obtain ⟨-, h⟩ | ⟨-, h⟩ | ⟨t, ht, rfl, h⟩ := render_cases hnames name
    · simp [h] at hok
    · simp [h] at hok
    · have hout := mapError_eq_ok (h.symm.trans hok)
      exact ⟨⟨t, ht, hout⟩, (file_of_emit hout).1⟩
  · rintro ⟨⟨t, ht, hout⟩, rfl⟩
    rw [(file_of_emit hout).1, render_of_mem hnames ht, hout]
    rfl

lemma render_eq_emit_iff (hnames : (g.model.types.map ContractType.name).Nodup) {name : String}
    {e : EmitError} :
    (g.render name).1 = .error (.emit e) ↔ ⟨name, e⟩ ∈ g.failuresOf g.contractTypes := by
  rw [mem_failuresOf]
  constructor
  · intro herror
    obtain ⟨-, h⟩ | ⟨-, h⟩ | ⟨t, ht, rfl, h⟩ := render_cases hnames name
    · simp [h] at herror
    · simp [h] at herror
    · refine ⟨t, ht, rfl, ?_⟩
      rw [h] at herror
      cases hout : (g.emit t).outcome with
      | ok file => simp [hout, Except.mapError] at herror
      | error e' => simpa [hout, Except.mapError] using herror
  · rintro ⟨t, ht, rfl, hout⟩
    rw [render_of_mem hnames ht, hout]
    rfl

/-! ### Against a batch -/

/-- The files of a batch have different names. -/
lemma filesOf_filter_eq_singleton_iff {ts : List ContractType}
    (hnames : (ts.map ContractType.name).Nodup) {name : String} {file : GeneratedFile} :
    (g.filesOf ts).filter (fun f => f.typeName == name) = [file] ↔
      file ∈ g.filesOf ts ∧ file.typeName = name := by
  have hfiles : ((g.filesOf ts).map (·.typeName)).Nodup :=
    ((filesOf_append_failuresOf_perm ts).nodup_iff.mpr hnames).of_append_left
  constructor
  · intro h
    have hmem : file ∈ (g.filesOf ts).filter (fun f => f.typeName == name) := by simp [h]
    simpa using hmem
  · rintro ⟨hmem, rfl⟩
    refine List.perm_singleton.mp
      ((List.perm_ext_iff_of_nodup ?_ (List.nodup_singleton file)).mpr ?_)
    · exact hfiles.of_map.filter _
    · intro f
      simp only [List.mem_filter, beq_iff_eq, List.mem_singleton]
      constructor
      · rintro ⟨hf, htype⟩
        exact List.inj_on_of_nodup_map hfiles hf hmem htype
      · rintro rfl
        exact ⟨hmem, rfl⟩

/-- What rendering the type with a name gives is what a batch holds under that name. -/
structure Agrees (g : Generator) (b : Batch) (name : String) : Prop where
  /-- There is a file exactly if it is the one file of the batch with that name. -/
  file : ∀ file, (g.render name).1 = .ok file ↔
    b.files.filter (fun f => f.typeName == name) = [file]
  excluded : (g.render name).1 = .error (.excluded name) ↔ name ∈ b.skipped
  /-- The failures are those of the batch, with their messages. -/
  failed : ∀ message,
    (∃ cause, (g.render name).1 = .error (.emit (.unsupported cause)) ∧
        (GeneratorError.emit (.unsupported cause)).message = message) ↔
      ∃ f ∈ b.failures, f.typeName = name ∧ f.error.message = message
  notFound : (g.render name).1 = .error (.notFound name) ↔
    name ∉ b.skipped ∧ name ∉ b.files.map (·.typeName) ∧ name ∉ b.failures.map (·.typeName)
  /-- There is nothing else that rendering can come to. -/
  exhaustive : (∃ file, (g.render name).1 = .ok file) ∨
    (g.render name).1 = .error (.excluded name) ∨
    (∃ cause, (g.render name).1 = .error (.emit (.unsupported cause))) ∨
    (g.render name).1 = .error (.notFound name)

/-- Rendering agrees with a batch on every name if the names of the types are distinct and no type
has a rooted source. -/
lemma agrees_batchBelow (hnames : (g.model.types.map ContractType.name).Nodup)
    (hcause : ∀ t ∈ g.model.types, ∀ e, (g.emit t).outcome = .error e →
      ∃ cause, e = .unsupported cause) (root : Option Path) (name : String) :
    g.Agrees (g.batchBelow root) name := by
  have hkept : (g.contractTypes.map ContractType.name).Nodup :=
    hnames.sublist (List.filter_sublist.map _)
  have hunsupported : ∀ e, (g.render name).1 = .error (.emit e) →
      ∃ cause, e = .unsupported cause := by
    intro e he
    obtain ⟨t, ht, -, hout⟩ := mem_failuresOf.mp ((render_eq_emit_iff hnames).mp he)
    exact hcause t (mem_contractTypes.mp ht).1 e hout
  refine ⟨fun file => ?_, render_eq_excluded_iff hnames, fun message => ?_, ?_, ?_⟩
  · rw [render_eq_ok_iff hnames]
    exact (filesOf_filter_eq_singleton_iff hkept).symm
  · constructor
    · rintro ⟨cause, herror, rfl⟩
      exact ⟨_, (render_eq_emit_iff hnames).mp herror, rfl, rfl⟩
    · rintro ⟨⟨_, e⟩, hf, rfl, rfl⟩
      have herror := (render_eq_emit_iff hnames).mpr hf
      obtain ⟨cause, rfl⟩ := hunsupported e herror
      exact ⟨cause, herror, rfl⟩
  · rw [render_eq_notFound_iff hnames, ← (skipped_append_perm (g := g)).mem_iff]
    simp [batchBelow]
  · obtain ⟨-, h⟩ | ⟨-, h⟩ | ⟨t, ht, rfl, h⟩ := render_cases hnames name
    · exact .inr (.inr (.inr h))
    · exact .inr (.inl h)
    · cases hout : (g.emit t).outcome with
      | ok file => exact .inl ⟨file, by rw [h, hout]; rfl⟩
      | error e =>
        have herror : (g.render t.name).1 = .error (.emit e) := by rw [h, hout]; rfl
        obtain ⟨cause, rfl⟩ := hunsupported e herror
        exact .inr (.inr (.inl ⟨cause, herror⟩))

/-- Without an obstacle the limits make no difference. -/
lemma renderWithin_eq (h : ∀ t ∈ g.contractTypes, g.obstacle? t = none) (name : String) :
    g.renderWithin name = ((g.render name).1.mapError .reported, (g.render name).2) := by
  have hnone : (if g.config.excludes name then none else g.model.find? name).bind g.obstacle? =
      none := by
    cases hexcluded : g.config.excludes name with
    | true => rfl
    | false =>
      cases hfind : g.model.find? name with
      | none => rfl
      | some t =>
        have hname : t.name = name := by simpa using List.find?_some hfind
        refine h t (mem_contractTypes.mpr ⟨List.mem_of_find?_eq_some hfind, ?_⟩)
        rw [hname, hexcluded]
  rw [renderWithin, hnone]

/-- The types of a model have relative sources, so that only a reference keeps them from a file. -/
lemma exists_unsupported_of_emit {v : Value} {m : Model} (hv : Model.ofValue v = .ok m)
    {t : ContractType} (ht : t ∈ m.types) {w : Java.Writer} {config : Config}
    {excluded : String → Bool} {e : EmitError} (h : (w.emit config excluded t).outcome = .error e) :
    ∃ cause, e = .unsupported cause := by
  obtain ⟨hne, hrelative⟩ := Model.sourceFile_of_ofValue hv t ht
  have hsource : isRooted (Java.Writer.sourceOf t.decl) = false := by
    simp [Java.Writer.sourceOf, hne, hrelative]
  obtain ⟨r, -, rfl⟩ := (Java.Writer.emit_eq_error_iff_first hsource).mp h
  exact ⟨_, rfl⟩

/-- **Rendering one type agrees with the batch of all types.**  The batch without a root always
comes to its end.  For every name, rendering gives the one file of the batch with that name, says
that the type is left out, fails with the message that the batch has for it, or finds no type, and
it does so exactly if the batch has it there; no name is at two places of the batch. -/
theorem render_agrees_with_generate {v : Value} {m : Model} (hv : Model.ofValue v = .ok m)
    {config : Config}
    (hconfig : config.namespaceSetting = .null ∨ ∃ s, config.namespaceSetting = .str s) :
    ∃ g, create m config "java" = .ok g ∧ g.model = m ∧ g.config = config ∧
      ∀ disk, ∃ b, (g.generate none disk).outcome = .ok b ∧ (g.generate none disk).disk = disk ∧
        (∀ name, g.Agrees b name) ∧
        (b.skipped ++ b.files.map (·.typeName) ++ b.failures.map (·.typeName)).Nodup ∧
        ((∀ t ∈ m.types, config.excludes t.name = false → g.obstacle? t = none) →
          g.generateWithin none disk = g.generate none disk ∧
          ∀ name, g.renderWithin name =
            ((g.render name).1.mapError .reported, (g.render name).2)) := by
  obtain ⟨ns, -, hcreate⟩ := create_eq_ok m hconfig
  refine ⟨_, hcreate, rfl, rfl, fun disk => ?_⟩
  have hnames := Model.names_nodup hv
  generalize hg : (⟨m, config, Java.Writer.standard ns config⟩ : Generator) = g
  have hmodel : g.model = m := by rw [← hg]
  have hcause : ∀ t ∈ g.model.types, ∀ e, (g.emit t).outcome = .error e →
      ∃ cause, e = .unsupported cause :=
    fun t ht e he => exists_unsupported_of_emit hv (hmodel ▸ ht) he
  have hwrite : disk.writeTexts (g.jobsOf none g.contractTypes) = (disk, .ok ()) := rfl
  have hrun := generate_eq hwrite
  refine ⟨g.batchBelow none, by rw [hrun], by rw [hrun],
    agrees_batchBelow (hmodel ▸ hnames) hcause none, ?_, fun hobstacle => ?_⟩
  · exact skipped_append_perm.nodup_iff.mpr (hmodel ▸ hnames)
  · have hkept : ∀ t ∈ g.contractTypes, g.obstacle? t = none := by
      intro t ht
      obtain ⟨hmem, hexcluded⟩ := mem_contractTypes.mp ht
      rw [hmodel] at hmem
      exact hobstacle t hmem (by rw [← hexcluded, ← hg])
    exact ⟨generateWithin_eq hkept none disk, renderWithin_eq hkept⟩

theorem render_agrees_batchExample :
    ∃ m g b, Model.ofValue batchExample = .ok m ∧
      create m { Config.default with excluded := [.str "Hidden"] } "java" = .ok g ∧
      (g.generate none ⟨[]⟩).outcome = .ok b ∧ b.skipped = ["Hidden"] ∧
      b.files.map (·.typeName) = ["Port"] ∧ b.failures.map (·.typeName) = ["Link"] ∧
      (g.render "Hidden").1 = .error (.excluded "Hidden") ∧
      (g.render "Tunnel").1 = .error (.notFound "Tunnel") ∧
      (∃ file, (g.render "Port").1 = .ok file ∧ file ∈ b.files) ∧
      ∃ cause, (g.render "Link").1 = .error (.emit (.unsupported cause)) := by
  have hany : (Model.ofValue batchExample).toOption.any (fun m =>
      (create m { Config.default with excluded := [.str "Hidden"] } "java").toOption.any (fun g =>
        (g.generate none ⟨[]⟩).outcome.toOption.any (fun b =>
          b.skipped = ["Hidden"] && b.files.map (·.typeName) = ["Port"] &&
            b.failures.map (·.typeName) = ["Link"]))) = true := by
    decide +kernel
  obtain ⟨m, hm, hany⟩ := (Option.any_eq_true _ _).mp hany
  obtain ⟨g, hg, hany⟩ := (Option.any_eq_true _ _).mp hany
  obtain ⟨b, hb, hany⟩ := (Option.any_eq_true _ _).mp hany
  simp only [Bool.and_eq_true, decide_eq_true_eq] at hany
  obtain ⟨⟨hskipped, hfiles⟩, hfailures⟩ := hany
  have hconfig : ({ Config.default with excluded := [.str "Hidden"] } : Config).namespaceSetting =
      .null ∨ ∃ s, Config.default.namespaceSetting = .str s := .inl rfl
  obtain ⟨g', hg', -, -, hrun⟩ := render_agrees_with_generate (eq_ok_of_toOption hm) hconfig
  cases (eq_ok_of_toOption hg).symm.trans hg'
  obtain ⟨b', hb', -, hagrees, -⟩ := hrun ⟨[]⟩
  cases (eq_ok_of_toOption hb).symm.trans hb'
  refine ⟨m, g, b, eq_ok_of_toOption hm, hg', hb', hskipped, hfiles, hfailures, ?_, ?_, ?_, ?_⟩
  · exact (hagrees "Hidden").excluded.mpr (by simp [hskipped])
  · exact (hagrees "Tunnel").notFound.mpr (by simp [hskipped, hfiles, hfailures])
  · obtain ⟨file, hfile⟩ := List.exists_of_mem_map
      (show "Port" ∈ b.files.map (·.typeName) by simp [hfiles])
    obtain ⟨file', hfile'⟩ : ∃ file', b.files = [file'] :=
      List.length_eq_one_iff.mp (by simpa using congrArg List.length hfiles)
    refine ⟨file, ((hagrees "Port").file file).mpr ?_, hfile.1⟩
    obtain ⟨hmem, hname⟩ := hfile
    rw [hfile', List.mem_singleton] at hmem
    simp [hfile', ← hmem, hname]
  · obtain ⟨f, hf, hname⟩ := List.exists_of_mem_map
      (show "Link" ∈ b.failures.map (·.typeName) by simp [hfailures])
    obtain ⟨cause, hcause, -⟩ := ((hagrees "Link").failed _).mpr ⟨f, hf, hname, rfl⟩
    exact ⟨cause, hcause⟩

end Generator

end DataContract
