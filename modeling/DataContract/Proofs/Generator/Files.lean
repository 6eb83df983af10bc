/-
Where the files of a batch go.

All files of a batch lie in the directory of the package below the root, each
under the name of its type.  Since no two types of a model have one name, no
file takes the place of another one: after the batch the disk holds each of them
at its place, and nothing else has changed.  A text without an encoding is the
one thing in a model that keeps the other types from theirs: the batch ends at
it, and what comes after it is not written.
-/
import DataContract.Proofs.Generator.Batch
import DataContract.Proofs.Java.Unsupported
import DataContract.Proofs.Model.Names
import DataContract.Proofs.Path

namespace DataContract

open DataContract.Java (GeneratedFile Writer)

namespace Generator

/-! ### Paths -/

/-- The directory that the files of a batch lie in. -/
def packageBelow (config : Config) (root : Path) : Path :=
  root.join ⟨Path.anchorOf (config.packageDirectory ++ "/"),
    (Path.parse config.packageDirectory).parts⟩

lemma slash_notMem_of_typeName {name : String} (h : Pattern.typeName.Matches name) :
    '/' ∉ (name ++ ".java").toList := by
  have hname := h.notMem (c := '/') (by decide) (by decide +kernel) (by decide)
  simpa using hname

lemma fileName_ne (name : String) {s : String} (hs : s.length < 5) : name ++ ".java" ≠ s := by
  rintro rfl
  have hsuffix : ".java".length = 5 := rfl
  rw [String.length_append] at hs
  omega

/-- The path of a file is its name in the directory of the package. -/
lemma pathBelow_eq {config : Config} {root : Path} {file : GeneratedFile} {name : String}
    (hpath : file.relativePath = Writer.outputPath config name)
    (hname : Pattern.typeName.Matches name) :
    pathBelow root file =
      ⟨(packageBelow config root).anchor,
        (packageBelow config root).parts ++ [name ++ ".java"]⟩ := by
  have hempty : name ++ ".java" ≠ "" := fileName_ne name (by decide)
  have hpoint : name ++ ".java" ≠ "." := fileName_ne name (by decide)
  rw [pathBelow, hpath, Writer.outputPath, String.append_assoc,
    Path.parse_append_slash (slash_notMem_of_typeName hname) hempty hpoint, packageBelow,
    Path.join, Path.join]
  split <;> simp

lemma parent_pathBelow {config : Config} {root : Path} {file : GeneratedFile} {name : String}
    (hpath : file.relativePath = Writer.outputPath config name)
    (hname : Pattern.typeName.Matches name) :
    (pathBelow root file).parent = packageBelow config root := by
  rw [pathBelow_eq hpath hname, Path.parent]
  simp

lemma place_pathBelow {config : Config} {root : Path} {file : GeneratedFile} {name : String}
    (hpath : file.relativePath = Writer.outputPath config name)
    (hname : Pattern.typeName.Matches name) :
    (pathBelow root file).place = (packageBelow config root).place ++ [name ++ ".java"] := by
  have hup : name ++ ".java" ≠ ".." := fileName_ne name (by decide)
  rw [pathBelow_eq hpath hname, Path.place, Disk.placeOf_concat, Disk.step,
    if_neg (by simpa using hup), Path.place]

variable {g : Generator}

/-- The files of a batch have different places if their types have different names. -/
lemma places_nodup {ts : List ContractType} (hnames : (ts.map ContractType.name).Nodup)
    (hmatches : ∀ t ∈ ts, Pattern.typeName.Matches t.name) (root : Path) :
    ((g.filesOf ts).map (fun f => (pathBelow root f).place)).Nodup := by
  have hplaces : (g.filesOf ts).map (fun f => (pathBelow root f).place) =
      ((g.filesOf ts).map (·.typeName)).map
        (fun name => (packageBelow g.config root).place ++ [name ++ ".java"]) := by
    rw [List.map_map]
    refine List.map_congr_left (fun file hfile => ?_)
    obtain ⟨t, ht, hout⟩ := mem_filesOf.mp hfile
    obtain ⟨htype, hpath⟩ := file_of_emit hout
    rw [place_pathBelow hpath (hmatches t ht), Function.comp_apply, htype]
  have hinj : Function.Injective
      (fun name : String => (packageBelow g.config root).place ++ [name ++ ".java"]) := by
    intro a b hab
    simpa using hab
  rw [hplaces]
  refine List.Nodup.map hinj ?_
  exact ((filesOf_append_failuresOf_perm ts).nodup_iff.mpr hnames).of_append_left

/-! ### Batches -/

/-- A run below a root that starts on a disk has given each type its own due. -/
structure Isolates (g : Generator) (root : Path) (disk : Disk) (b : Batch) (run : Run) : Prop where
  /-- The types that are left out are named, in the order of the model. -/
  skipped : b.skipped =
    (g.model.types.filter (fun t => g.config.excludes t.name)).map ContractType.name
  /-- The files are those that the other types have by themselves. -/
  files : b.files = (g.model.types.filter (fun t => !g.config.excludes t.name)).filterMap
    (fun t => (g.emit t).outcome.toOption)
  /-- The failures are those that the other types have by themselves. -/
  failures : b.failures = (g.model.types.filter (fun t => !g.config.excludes t.name)).filterMap
    (fun t => match (g.emit t).outcome with
      | .ok _ => none
      | .error e => some ⟨t.name, e⟩)
  /-- Every type of the model is left out or has a file or a failure, and only one of them. -/
  accounts : (b.skipped ++ b.files.map (·.typeName) ++ b.failures.map (·.typeName)).Perm
    (g.model.types.map ContractType.name)
  distinct : (g.model.types.map ContractType.name).Nodup
  /-- Each file is written under its own path below the root. -/
  written : b.written = b.files.map (pathBelow root)
  places : (b.written.map Path.place).Nodup
  /-- On the disk stand the files, the directories on the way to them, and what was there before. -/
  onDisk : ∀ file ∈ b.files,
    run.disk.get? (pathBelow root file).place = some (.file file.text.toUTF8)
  directory : ∀ p ∈ b.written, ∀ way ∈ p.directories, run.disk.get? way = some .directory
  other : ∀ place, (∀ p ∈ b.written, place ≠ p.place ∧ place ∉ p.directories) →
    run.disk.get? place = disk.get? place
  /-- The same run once more changes nothing. -/
  again : g.generate (some root) run.disk = run

/-- A run below a root that starts on a disk has ended at a file whose text has no encoding. -/
structure EndsAt (g : Generator) (root : Path) (disk : Disk) (before after : List ContractType)
    (file : GeneratedFile) (run : Run) : Prop where
  outcome : run.outcome = .error (.disk .unencodable)
  /-- The file stands there without its text. -/
  emptied : run.disk.get? (pathBelow root file).place = some (.file .empty)
  /-- The files of the types before it have been written. -/
  onDisk : ∀ f ∈ g.filesOf before,
    run.disk.get? (pathBelow root f).place = some (.file f.text.toUTF8)
  /-- The files of the types after it have not, although the disk would accept them. -/
  missing : ∀ f ∈ g.filesOf after, disk.Accepts (pathBelow root f) →
    run.disk.get? (pathBelow root f).place = disk.get? (pathBelow root f).place
  other : ∀ place, (∀ f ∈ g.filesOf before ++ [file],
      place ≠ (pathBelow root f).place ∧ place ∉ (pathBelow root f).directories) →
    run.disk.get? place = disk.get? place

/-- The files of types of a model lie in one directory. -/
lemma parent_of_mem_filesOf {ts : List ContractType} {file : GeneratedFile}
    (hmatches : ∀ t ∈ ts, Pattern.typeName.Matches t.name) (root : Path)
    (hfile : file ∈ g.filesOf ts) :
    (pathBelow root file).parent = packageBelow g.config root := by
  obtain ⟨t, ht, hout⟩ := mem_filesOf.mp hfile
  exact parent_pathBelow (file_of_emit hout).2 (hmatches t ht)

/-- A file with its place below a root, as it is written. -/
def fileBelow (root : Path) (f : GeneratedFile) : Path × ByteArray :=
  (pathBelow root f, f.text.toUTF8)

lemma encoded_jobsOf (root : Path) (ts : List ContractType) :
    (g.jobsOf (some root) ts).map Disk.encoded = (g.filesOf ts).map (fileBelow root) := by
  rw [jobsOf, List.map_map]
  rfl

/-- The texts of types of a model are written exactly if each has an encoding and a place. -/
lemma writeTexts_succeeds_iff {ts : List ContractType} {disk : Disk}
    (hmatches : ∀ t ∈ ts, Pattern.typeName.Matches t.name) (root : Path) :
    (∃ d', disk.writeTexts (g.jobsOf (some root) ts) = (d', .ok ())) ↔
      ∀ file ∈ g.filesOf ts,
        disk.Accepts (pathBelow root file) ∧ Text.isEncodable file.text = true := by
  have hdirectory : ∀ j ∈ (g.filesOf ts).map (fileBelow root),
      j.1.parent = packageBelow g.config root :=
    List.forall_mem_map.mpr (fun file hfile => parent_of_mem_filesOf hmatches root hfile)
  have haccepts := Disk.writeAll_succeeds_iff (d := disk) hdirectory
  rw [List.forall_mem_map] at haccepts
  simp only [Disk.writeTexts_eq_ok_iff, exists_and_left, encoded_jobsOf]
  rw [← Succeeds, haccepts, jobsOf, List.forall_mem_map, and_comm]
  exact forall₂_and.symm

/-- A run that comes to its end has isolated the types, if their names are distinct. -/
lemma isolates_of_outcome {root : Path} {disk : Disk} {b : Batch}
    (hnames : (g.model.types.map ContractType.name).Nodup)
    (hmatches : ∀ t ∈ g.model.types, Pattern.typeName.Matches t.name)
    (h : (g.generate (some root) disk).outcome = .ok b) :
    g.Isolates root disk b (g.generate (some root) disk) := by
  have hsub : g.contractTypes.Sublist g.model.types := List.filter_sublist
  have hkept : ∀ t ∈ g.contractTypes, Pattern.typeName.Matches t.name :=
    fun t ht => hmatches t (hsub.subset ht)
  have hplaces := places_nodup (g := g) (hnames.sublist (hsub.map _)) hkept root
  have hdirectory : ∀ j ∈ (g.filesOf g.contractTypes).map (fileBelow root),
      j.1.parent = packageBelow g.config root :=
    List.forall_mem_map.mpr (fun file hfile => parent_of_mem_filesOf hkept root hfile)
  obtain ⟨d', hd'⟩ := generate_succeeds_iff.mp ⟨b, h⟩
  obtain ⟨hencodable, hwrites⟩ := Disk.writeTexts_eq_ok_iff.mp hd'
  rw [encoded_jobsOf] at hwrites
  have hwrote := Disk.wroteAll_of_writeAll hdirectory (by rw [List.map_map]; exact hplaces) hwrites
  have haccepts := (Disk.writeAll_succeeds_iff hdirectory).mp ⟨d', hwrites⟩
  have hagain := generate_eq (Disk.writeTexts_eq_ok_iff.mpr
    ⟨hencodable, (encoded_jobsOf root _).symm ▸ hwrote.writeAll_eq haccepts⟩)
  rw [generate_eq hd'] at h ⊢
  cases h
  have hwritten : (g.batchBelow (some root)).written =
      (g.batchBelow (some root)).files.map (pathBelow root) := by
    simp [batchBelow, jobsOf]
  have hjob : ∀ file ∈ (g.batchBelow (some root)).files,
      fileBelow root file ∈ (g.filesOf g.contractTypes).map (fileBelow root) :=
    fun file hfile => List.mem_map_of_mem hfile
  refine ⟨?_, rfl, rfl, skipped_append_perm, hnames, hwritten, ?_, fun file hfile => ?_,
    fun p hp way hway => ?_, fun place hplace => ?_, hagain⟩
  · simp [batchBelow, Generator.skipped, List.filter_map, Function.comp_def]
  · rw [hwritten, List.map_map]
    exact hplaces
  · exact (hwrote.file _ (hjob file hfile)).get?_eq (haccepts _ (hjob file hfile)).place_ne_nil
  · rw [hwritten] at hp
    obtain ⟨file, hfile, rfl⟩ := List.mem_map.mp hp
    exact hwrote.directory _ (hjob file hfile) way hway
  · refine hwrote.other place (List.forall_mem_map.mpr (fun file hfile => ?_))
    exact hplace _ (hwritten ▸ List.mem_map_of_mem hfile)

/-- A run ends at the first file whose text has no encoding. -/
lemma endsAt_of_not_encodable {root : Path} {disk : Disk} {before after : List ContractType}
    {t : ContractType} {file : GeneratedFile} (htypes : g.contractTypes = before ++ t :: after)
    (hnames : (g.contractTypes.map ContractType.name).Nodup)
    (hmatches : ∀ t ∈ g.contractTypes, Pattern.typeName.Matches t.name)
    (hfile : (g.emit t).outcome = .ok file) (htext : Text.isEncodable file.text = false)
    (hbefore : ∀ f ∈ g.filesOf before, Text.isEncodable f.text = true)
    (haccepts : ∀ f ∈ g.filesOf before ++ [file], disk.Accepts (pathBelow root f)) :
    g.EndsAt root disk before after file (g.generate (some root) disk) := by
  have hfiles : g.filesOf g.contractTypes = (g.filesOf before ++ [file]) ++ g.filesOf after := by
    rw [htypes, filesOf, List.filterMap_append, ← filesOf, ← filesOf, filesOf_cons_of_ok hfile,
      List.append_assoc, List.singleton_append]
  have hparent : ∀ f ∈ (g.filesOf before ++ [file]) ++ g.filesOf after,
      (pathBelow root f).parent = packageBelow g.config root :=
    fun f hf => parent_of_mem_filesOf hmatches root (hfiles ▸ hf)
  have hplaces := places_nodup (g := g) hnames hmatches root
  rw [hfiles, List.map_append, List.nodup_append] at hplaces
  obtain ⟨hdistinct, -, hlater⟩ := hplaces
  let text (f : GeneratedFile) : Path × String := (pathBelow root f, f.text)
  have htexts : (g.filesOf before).map text ++ [(pathBelow root file, file.text)] =
      (g.filesOf before ++ [file]).map text := by
    rw [List.map_append, List.map_singleton]
  obtain ⟨d', hrun, hwrote⟩ := Disk.exists_wroteAll_of_not_encodable (d := disk)
    ((g.filesOf after).map text)
    (htexts ▸ List.forall_mem_map.mpr (fun f hf => hparent f (List.mem_append_left _ hf)))
    (by rw [htexts, List.map_map]; exact hdistinct)
    (htexts ▸ List.forall_mem_map.mpr haccepts) (List.forall_mem_map.mpr hbefore) htext
  rw [List.map_map] at hwrote
  have hjobs : g.jobsOf (some root) g.contractTypes =
      (g.filesOf before).map text ++ (pathBelow root file, file.text) ::
        (g.filesOf after).map text := by
    rw [jobsOf, hfiles, List.append_assoc, List.map_append]
    rfl
  obtain ⟨hdisk, houtcome⟩ := generate_of_error (hjobs ▸ hrun)
  -- a place that none of these files has, nor a directory on the way to them, is as before
  have hother : ∀ place, (∀ f ∈ g.filesOf before ++ [file],
      place ≠ (pathBelow root f).place ∧ place ∉ (pathBelow root f).directories) →
      d'.get? place = disk.get? place := by
    intro place hplace
    rw [List.forall_mem_append] at hplace
    refine hwrote.other place (List.forall_mem_append.mpr ⟨List.forall_mem_map.mpr hplace.1, ?_⟩)
    simpa using hplace.2
  refine ⟨houtcome, ?_, fun f hf => ?_, fun f hf hfits => ?_, ?_⟩ <;> rw [hdisk]
  · exact (hwrote.file _ (List.mem_append_right _ (List.mem_singleton_self _))).get?_eq
      (haccepts file (by simp)).place_ne_nil
  · exact (hwrote.file _ (List.mem_append_left _ (List.mem_map_of_mem hf))).get?_eq
      (haccepts f (by simp [hf])).place_ne_nil
  · -- a later file has a place of its own, which is not on the way to the earlier ones
    refine hother _ (fun f' hf' => ⟨fun heq => ?_, ?_⟩)
    · exact hlater _ (List.mem_map_of_mem hf') _ (List.mem_map_of_mem hf) heq.symm
    · rw [Path.directories, hparent f' (List.mem_append_left _ hf'),
        ← hparent f (List.mem_append_right _ hf)]
      exact hfits.apart
  · exact hother

/-- **A batch gives each type of a model its own file or failure, if all texts can be encoded.**  It
comes to its end exactly if the disk accepts the path of every file and every text has an encoding.
Then the files and failures are those of each type alone, every type is accounted for once, the
files have different places, and on the disk nothing but them and the directories on the way to
them has changed.  Running it again changes nothing at all.  The first text without an encoding ends
the batch with an empty file: there is no result, and the types after it are lost. -/
theorem generate_isolates_types {v : Value} {m : Model} (hv : Model.ofValue v = .ok m)
    {config : Config}
    (hconfig : config.namespaceSetting = .null ∨ ∃ s, config.namespaceSetting = .str s) :
    ∃ g, create m config "java" = .ok g ∧ g.model = m ∧ g.config = config ∧
      ∀ (root : Path) (disk : Disk),
        (Succeeds (g.generate (some root) disk).outcome ↔
          ∀ t ∈ m.types, config.excludes t.name = false →
            ∀ file, (g.emit t).outcome = .ok file →
              disk.Accepts (pathBelow root file) ∧ Text.isEncodable file.text = true) ∧
        (∀ b, (g.generate (some root) disk).outcome = .ok b →
          g.Isolates root disk b (g.generate (some root) disk)) ∧
        (∀ before t after file,
          m.types.filter (fun t => !config.excludes t.name) = before ++ t :: after →
          (g.emit t).outcome = .ok file → Text.isEncodable file.text = false →
          (∀ f ∈ g.filesOf before, Text.isEncodable f.text = true) →
          (∀ f ∈ g.filesOf before ++ [file], disk.Accepts (pathBelow root f)) →
          g.EndsAt root disk before after file (g.generate (some root) disk)) ∧
        ((∀ t ∈ m.types, config.excludes t.name = false → g.obstacle? t = none) →
          g.generateWithin (some root) disk = g.generate (some root) disk) := by
  obtain ⟨ns, -, hcreate⟩ := create_eq_ok m hconfig
  refine ⟨_, hcreate, rfl, rfl, fun root disk => ?_⟩
  have hnames := Model.names_nodup hv
  have hmatches : ∀ t ∈ m.types, Pattern.typeName.Matches t.name := by
    intro t ht
    refine Model.typeName_of_ofValue hv t (ContractType.mem_walkAll.mpr ⟨t, ht, ?_⟩)
    rw [ContractType.walk_eq_cons]
    exact List.mem_cons_self
  generalize hg : (⟨m, config, Writer.standard ns config⟩ : Generator) = g
  have hmodel : g.model = m := by rw [← hg]
  have hkept : g.contractTypes = m.types.filter (fun t => !config.excludes t.name) := by
    rw [← hg, contractTypes]
  have htypes : ∀ t, t ∈ g.contractTypes ↔ t ∈ m.types ∧ config.excludes t.name = false := by
    intro t
    rw [hkept, List.mem_filter, Bool.not_eq_true']
  have hkeptMatches : ∀ t ∈ g.contractTypes, Pattern.typeName.Matches t.name :=
    fun t ht => hmatches t ((htypes t).mp ht).1
  refine ⟨?_, fun b hb => ?_, fun before t after file hsplit hfile htext hbefore haccepts => ?_,
    fun hobstacle => ?_⟩
  · rw [generate_succeeds_iff, writeTexts_succeeds_iff hkeptMatches]
    simp only [mem_filesOf, htypes]
    constructor
    · intro h t ht hkept file hfile
      exact h file ⟨t, ⟨ht, hkept⟩, hfile⟩
    · rintro h file ⟨t, ⟨ht, hkept⟩, hfile⟩
      exact h t ht hkept file hfile
  · rw [← hmodel] at hnames hmatches
    exact isolates_of_outcome hnames hmatches hb
  · have hkeptNames : (g.contractTypes.map ContractType.name).Nodup :=
      hnames.sublist (hkept ▸ List.filter_sublist.map _)
    exact endsAt_of_not_encodable (hkept.trans hsplit) hkeptNames hkeptMatches hfile htext hbefore
      haccepts
  · exact generateWithin_eq (fun t ht => hobstacle t ((htypes t).mp ht).1 ((htypes t).mp ht).2) _ _

/-- A type with a file, one with a failure and one that is left out. -/
def batchExample : Value :=
  .map [(.str "ir_version", .str "1.0"), (.str "namespace", .str "Tunnels"),
    (.str "types", .list [
      .map [(.str "name", .str "Port"), (.str "source_file", .str "Port.cs"),
        (.str "members", .list [.map [(.str "member", .str "property"), (.str "name", .str "Host"),
          (.str "type", .str "string")]])],
      .map [(.str "name", .str "Hidden"), (.str "source_file", .str "Hidden.cs")],
      .map [(.str "name", .str "Link"), (.str "source_file", .str "Link.cs"),
        (.str "members", .list [.map [(.str "member", .str "property"),
          (.str "name", .str "Target"), (.str "type", .str "Links.Target")]])]])]

/-- Settings that leave one of these types out, for files without a header. -/
def batchConfig : Config :=
  { Config.default with licenseHeader := [], excluded := [.str "Hidden"], package := "contracts" }

/-- A disk with a file beside the directory that is written to. -/
def batchDisk : Disk := ⟨[(["out"], .directory), (["out", "notes"], .file "kept".toUTF8)]⟩

theorem generate_isolates_batchExample :
    ∃ m g b, Model.ofValue batchExample = .ok m ∧
      create m batchConfig "java" = .ok g ∧
      (g.generate (some (Path.parse "out")) batchDisk).outcome = .ok b ∧
      b.skipped = ["Hidden"] ∧ b.files.map (·.typeName) = ["Port"] ∧
      b.failures.map (·.typeName) = ["Link"] ∧
      g.Isolates (Path.parse "out") batchDisk b
        (g.generate (some (Path.parse "out")) batchDisk) := by
  have hany : (Model.ofValue batchExample).toOption.any (fun m =>
      (create m batchConfig "java").toOption.any (fun g =>
        (g.generate (some (Path.parse "out")) batchDisk).outcome.toOption.any (fun b =>
          b.skipped = ["Hidden"] && b.files.map (·.typeName) = ["Port"] &&
            b.failures.map (·.typeName) = ["Link"]))) = true := by
    decide +kernel
  obtain ⟨m, hm, hany⟩ := (Option.any_eq_true _ _).mp hany
  obtain ⟨g, hg, hany⟩ := (Option.any_eq_true _ _).mp hany
  obtain ⟨b, hb, hany⟩ := (Option.any_eq_true _ _).mp hany
  simp only [Bool.and_eq_true, decide_eq_true_eq] at hany
  obtain ⟨⟨hskipped, hfiles⟩, hfailures⟩ := hany
  have hconfig : batchConfig.namespaceSetting = .null ∨
      ∃ s, batchConfig.namespaceSetting = .str s := .inl rfl
  obtain ⟨g', hg', -, -, hrun⟩ := generate_isolates_types (eq_ok_of_toOption hm) hconfig
  cases (eq_ok_of_toOption hg).symm.trans hg'
  obtain ⟨-, hisolates, -, -⟩ := hrun (Path.parse "out") batchDisk
  exact ⟨m, g, b, eq_ok_of_toOption hm, hg', eq_ok_of_toOption hb, hskipped, hfiles, hfailures,
    hisolates b (eq_ok_of_toOption hb)⟩

/-- Two types, of which the first has half a pair of units in its documentation. -/
def halfExample : Value :=
  .map [(.str "ir_version", .str "1.0"), (.str "namespace", .str "Tunnels"),
    (.str "types", .list [
      .map [(.str "name", .str "Port"), (.str "source_file", .str "Port.cs"),
        (.str "documentation",
          .str (String.ofList ("<summary>".toList ++ [Text.charOfCode 0xd800] ++
            "</summary>".toList)))],
      .map [(.str "name", .str "Link"), (.str "source_file", .str "Link.cs")]])]

/-- A disk that accepts every file of a model is not enough for a batch to come to its end: the
first of two types can keep the other one from its file. -/
theorem not_forall_generate_succeeds :
    ¬ ∀ (v : Value) (m : Model) (config : Config) (g : Generator) (root : Path) (disk : Disk),
      Model.ofValue v = .ok m → create m config "java" = .ok g →
      (∀ t ∈ m.types, ∃ file, (g.emit t).outcome = .ok file ∧
        disk.Accepts (pathBelow root file)) →
      Succeeds (g.generate (some root) disk).outcome := by
  intro h
  have hany : (Model.ofValue halfExample).toOption.any (fun m =>
      (create m batchConfig "java").toOption.any (fun g =>
        m.types.all (fun t => (g.emit t).outcome.toOption.any (fun file =>
          (batchDisk.write (pathBelow (Path.parse "out") file) .empty).isOk)) &&
        !(g.generate (some (Path.parse "out")) batchDisk).outcome.isOk)) = true := by
    decide +kernel
  obtain ⟨m, hm, hany⟩ := (Option.any_eq_true _ _).mp hany
  obtain ⟨g, hg, hany⟩ := (Option.any_eq_true _ _).mp hany
  rw [Bool.and_eq_true, Bool.not_eq_true', List.all_eq_true] at hany
  obtain ⟨hwrites, hfails⟩ := hany
  have haccepts : ∀ t ∈ m.types, ∃ file, (g.emit t).outcome = .ok file ∧
      batchDisk.Accepts (pathBelow (Path.parse "out") file) := by
    intro t ht
    obtain ⟨file, hfile, hwrite⟩ := (Option.any_eq_true _ _).mp (hwrites t ht)
    exact ⟨file, eq_ok_of_toOption hfile, Disk.write_succeeds_iff.mp (Succeeds.of_isOk hwrite)⟩
  obtain ⟨b, hb⟩ := h halfExample m _ g _ _ (eq_ok_of_toOption hm) (eq_ok_of_toOption hg) haccepts
  rw [hb] at hfails
  cases hfails

end Generator

end DataContract
