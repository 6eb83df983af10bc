/-
What a batch holds.

Each type is generated for itself: its file or its failure is what generating
that type alone gives, and the other types have no part in it.  What is written
are the files, one after another; the work ends early only if the disk refuses
one of them or if the text of one has no encoding.
-/
import DataContract.Generator.Limit
import DataContract.Proofs.Disk.Texts
import DataContract.Proofs.Java.Writing
import Mathlib.Data.List.Perm.Basic

namespace DataContract.Generator

open DataContract.Java (GeneratedFile Writer)

variable (g : Generator)

/-! ### Files and failures -/

/-- The files of the types that can be generated, in order. -/
def filesOf (ts : List ContractType) : List GeneratedFile :=
  ts.filterMap (fun t => (g.emit t).outcome.toOption)

/-- The failure of a type, if it has no file. -/
def failureOf? (t : ContractType) : Option BatchFailure :=
  match (g.emit t).outcome with
  | .ok _ => none
  | .error e => some ⟨t.name, e⟩

/-- The failures of the types that cannot be generated, in order. -/
def failuresOf (ts : List ContractType) : List BatchFailure :=
  ts.filterMap g.failureOf?

/-- The path of a file below a root. -/
def pathBelow (root : Path) (file : GeneratedFile) : Path :=
  root.join (Path.parse file.relativePath)

/-- What is written below a root, if there is one. -/
def jobsOf (root : Option Path) (ts : List ContractType) : List (Path × String) :=
  match root with
  | none => []
  | some root => (g.filesOf ts).map (fun f => (pathBelow root f, f.text))

/-- The notices on a type whose file is written below a root, if there is one. -/
def noticesOf (root : Option Path) (t : ContractType) : List Notice :=
  (g.emit t).notices ++
    match (g.emit t).outcome with
    | .error e => [skippingNotice t.name e]
    | .ok file => (root.map (fun root => wroteNotice (pathBelow root file))).toList

variable {g}

/-- A file is generated for its type and has its place by the name of that type. -/
lemma file_of_emit {t : ContractType} {file : GeneratedFile} (h : (g.emit t).outcome = .ok file) :
    file.typeName = t.name ∧ file.relativePath = Writer.outputPath g.config t.name := by
  obtain ⟨-, type, -, rfl⟩ := Writer.emit_eq_ok_iff.mp h
  exact ⟨rfl, rfl⟩

lemma filesOf_cons_of_ok {t : ContractType} {file : GeneratedFile}
    (h : (g.emit t).outcome = .ok file) (ts : List ContractType) :
    g.filesOf (t :: ts) = file :: g.filesOf ts := by
  simp [filesOf, h, Except.toOption]

lemma filesOf_cons_of_error {t : ContractType} {e : Java.EmitError}
    (h : (g.emit t).outcome = .error e) (ts : List ContractType) :
    g.filesOf (t :: ts) = g.filesOf ts := by
  simp [filesOf, h, Except.toOption]

lemma failuresOf_cons_of_ok {t : ContractType} {file : GeneratedFile}
    (h : (g.emit t).outcome = .ok file) (ts : List ContractType) :
    g.failuresOf (t :: ts) = g.failuresOf ts := by
  simp [failuresOf, failureOf?, h]

lemma failuresOf_cons_of_error {t : ContractType} {e : Java.EmitError}
    (h : (g.emit t).outcome = .error e) (ts : List ContractType) :
    g.failuresOf (t :: ts) = ⟨t.name, e⟩ :: g.failuresOf ts := by
  simp [failuresOf, failureOf?, h]

lemma jobsOf_cons_of_ok {t : ContractType} {file : GeneratedFile}
    (h : (g.emit t).outcome = .ok file) (root : Path) (ts : List ContractType) :
    g.jobsOf (some root) (t :: ts) =
      (pathBelow root file, file.text) :: g.jobsOf (some root) ts := by
  simp [jobsOf, filesOf_cons_of_ok h]

lemma jobsOf_cons_of_error {t : ContractType} {e : Java.EmitError}
    (h : (g.emit t).outcome = .error e) (root : Option Path) (ts : List ContractType) :
    g.jobsOf root (t :: ts) = g.jobsOf root ts := by
  cases root <;> simp [jobsOf, filesOf_cons_of_error h]

lemma mem_filesOf {ts : List ContractType} {file : GeneratedFile} :
    file ∈ g.filesOf ts ↔ ∃ t ∈ ts, (g.emit t).outcome = .ok file := by
  simp only [filesOf, List.mem_filterMap]
  refine exists_congr (fun t => and_congr_right (fun _ => ?_))
  constructor
  · exact eq_ok_of_toOption
  · intro h
    rw [h]
    rfl

lemma mem_failuresOf {ts : List ContractType} {f : BatchFailure} :
    f ∈ g.failuresOf ts ↔ ∃ t ∈ ts, f.typeName = t.name ∧ (g.emit t).outcome = .error f.error := by
  simp only [failuresOf, List.mem_filterMap]
  refine exists_congr (fun t => and_congr_right (fun _ => ?_))
  obtain ⟨name, e⟩ := f
  rw [failureOf?]
  cases (g.emit t).outcome with
  | ok file => simp
  | error e' => simp [eq_comm]

/-- Every type has a file or a failure, and none has two. -/
lemma filesOf_append_failuresOf_perm (ts : List ContractType) :
    ((g.filesOf ts).map (·.typeName) ++ (g.failuresOf ts).map (·.typeName)).Perm
      (ts.map ContractType.name) := by
  induction ts with
  | nil => exact .refl []
  | cons t rest ih =>
    cases hout : (g.emit t).outcome with
    | ok file =>
      rw [filesOf_cons_of_ok hout, failuresOf_cons_of_ok hout]
      simp only [List.map_cons, List.cons_append, (file_of_emit hout).1]
      exact ih.cons t.name
    | error e =>
      rw [filesOf_cons_of_error hout, failuresOf_cons_of_error hout, List.map_cons, List.map_cons]
      exact List.perm_middle.trans (ih.cons t.name)

/-- The types that are left out, the files and the failures account for every type of the model. -/
lemma skipped_append_perm :
    (g.skipped ++ (g.filesOf g.contractTypes).map (·.typeName)
        ++ (g.failuresOf g.contractTypes).map (·.typeName)).Perm
      (g.model.types.map ContractType.name) := by
  have hsplit := List.filter_append_perm g.config.excludes (g.model.types.map ContractType.name)
  have hkept : (g.model.types.map ContractType.name).filter (fun n => !g.config.excludes n) =
      g.contractTypes.map ContractType.name := by
    rw [contractTypes, List.filter_map]
    rfl
  rw [hkept] at hsplit
  rw [List.append_assoc]
  exact (List.Perm.append_left _ (filesOf_append_failuresOf_perm g.contractTypes)).trans hsplit

/-! ### Runs -/

/-- Generating types gives their files and failures, if all texts are written. -/
lemma generateTypes_eq {root : Option Path} {d d' : Disk} {ts : List ContractType}
    (h : d.writeTexts (g.jobsOf root ts) = (d', .ok ())) :
    g.generateTypes root d ts =
      ⟨d', ts.flatMap (g.noticesOf root),
        .ok ⟨g.filesOf ts, (g.jobsOf root ts).map Prod.fst, g.failuresOf ts, []⟩⟩ := by
  induction ts generalizing d with
  | nil =>
    cases root <;> cases h <;> rfl
  | cons t rest ih =>
    rw [generateTypes, List.flatMap_cons]
    cases hout : (g.emit t).outcome with
    | error e =>
      rw [jobsOf_cons_of_error hout] at h
      simp only [ih h, Run.after, Except.map, noticesOf, hout, jobsOf_cons_of_error hout,
        filesOf_cons_of_error hout, failuresOf_cons_of_error hout]
    | ok file =>
      cases root with
      | none =>
        simp [ih (d := d) h, Run.after, Except.map, noticesOf, hout, jobsOf,
          filesOf_cons_of_ok hout, failuresOf_cons_of_ok hout]
      | some root =>
        rw [jobsOf_cons_of_ok hout, Disk.writeTexts_cons_eq_ok_iff, pathBelow] at h
        obtain ⟨d₁, hwrite, h⟩ := h
        simp only [hwrite, ih h, Run.after, Except.map, noticesOf, hout, pathBelow,
          jobsOf_cons_of_ok hout, filesOf_cons_of_ok hout, failuresOf_cons_of_ok hout,
          Option.map_some, Option.toList_some, List.map_cons]

/-- Generating types ends as the writing of their texts does, and leaves the disk as it does. -/
lemma generateTypes_of_error {root : Option Path} {d d' : Disk} {ts : List ContractType}
    {e : DiskError} (h : d.writeTexts (g.jobsOf root ts) = (d', .error e)) :
    (g.generateTypes root d ts).disk = d' ∧
      (g.generateTypes root d ts).outcome = .error (.disk e) := by
  induction ts generalizing d with
  | nil => cases root <;> cases h
  | cons t rest ih =>
    rw [generateTypes]
    cases hout : (g.emit t).outcome with
    | error e' =>
      rw [jobsOf_cons_of_error hout] at h
      obtain ⟨hdisk, houtcome⟩ := ih h
      exact ⟨hdisk, by simp only [Run.after, houtcome, Except.map]⟩
    | ok file =>
      cases root with
      | none => cases h
      | some root =>
        rw [jobsOf_cons_of_ok hout, Disk.writeTexts, pathBelow] at h
        dsimp only
        generalize d.writeText (root.join (Path.parse file.relativePath)) file.text = w at h
        obtain ⟨d₁, result⟩ := w
        cases result with
        | error e' =>
          cases h
          exact ⟨rfl, rfl⟩
        | ok u =>
          obtain ⟨hdisk, houtcome⟩ := ih h
          simp only [Run.after, hdisk, houtcome, Except.map, and_self]

/-- Only the disk ends the generating of types. -/
lemma exists_diskError_of_generateTypes {root : Option Path} {d : Disk} {ts : List ContractType}
    {c : Crash} (h : (g.generateTypes root d ts).outcome = .error c) : ∃ e, c = .disk e := by
  cases hwrite : d.writeTexts (g.jobsOf root ts) with
  | mk d' result =>
    cases result with
    | ok u =>
      rw [generateTypes_eq hwrite] at h
      cases h
    | error e =>
      rw [(generateTypes_of_error hwrite).2] at h
      cases h
      exact ⟨e, rfl⟩

/-- The batch of all types that are not left out. -/
def batchBelow (g : Generator) (root : Option Path) : Batch :=
  ⟨g.filesOf g.contractTypes, (g.jobsOf root g.contractTypes).map Prod.fst,
    g.failuresOf g.contractTypes, g.skipped⟩

lemma generate_eq {root : Option Path} {d d' : Disk}
    (h : d.writeTexts (g.jobsOf root g.contractTypes) = (d', .ok ())) :
    g.generate root d =
      ⟨d', g.contractTypes.flatMap (g.noticesOf root), .ok (g.batchBelow root)⟩ := by
  rw [generate, generateTypes_eq h]
  rfl

lemma generate_of_error {root : Option Path} {d d' : Disk} {e : DiskError}
    (h : d.writeTexts (g.jobsOf root g.contractTypes) = (d', .error e)) :
    (g.generate root d).disk = d' ∧ (g.generate root d).outcome = .error (.disk e) := by
  obtain ⟨hdisk, houtcome⟩ := generateTypes_of_error h
  exact ⟨hdisk, by simp only [generate, Run.after, houtcome, Except.map]⟩

/-- Generating succeeds exactly if the texts of all files are written. -/
lemma generate_succeeds_iff {root : Option Path} {d : Disk} :
    Succeeds (g.generate root d).outcome ↔
      ∃ d', d.writeTexts (g.jobsOf root g.contractTypes) = (d', .ok ()) := by
  constructor
  · rintro ⟨b, hb⟩
    cases h : d.writeTexts (g.jobsOf root g.contractTypes) with
    | mk d' result =>
      cases result with
      | ok u => exact ⟨d', rfl⟩
      | error e =>
        rw [(generate_of_error h).2] at hb
        cases hb
  · rintro ⟨d', h⟩
    rw [generate_eq h]
    exact .ok _

lemma eq_batchBelow_of_generate {root : Option Path} {d : Disk} {b : Batch}
    (h : (g.generate root d).outcome = .ok b) : b = g.batchBelow root := by
  obtain ⟨d', hwrite⟩ := generate_succeeds_iff.mp ⟨b, h⟩
  rw [generate_eq hwrite] at h
  cases h
  rfl

/-! ### Within the limits -/

/-- What ends the work before its time is the obstacle of one of the types. -/
lemma exists_obstacle_of_beforeObstacle {ts : List ContractType} {c : Crash}
    (h : (g.beforeObstacle ts).2 = some c) : ∃ t ∈ ts, g.obstacle? t = some c := by
  induction ts with
  | nil => cases h
  | cons t rest ih =>
    rw [beforeObstacle] at h
    cases hobstacle : g.obstacle? t with
    | some c' =>
      rw [hobstacle] at h
      cases h
      exact ⟨t, by simp, hobstacle⟩
    | none =>
      rw [hobstacle] at h
      obtain ⟨u, hu, hc⟩ := ih h
      exact ⟨u, List.mem_cons_of_mem t hu, hc⟩

/-- Generating ends early for the disk or for an obstacle. -/
lemma cause_of_generateWithin {root : Option Path} {d : Disk} {c : Crash}
    (h : (g.generateWithin root d).outcome = .error c) :
    (∃ e, c = .disk e) ∨ ∃ t ∈ g.contractTypes, g.obstacle? t = some c := by
  rw [generateWithin] at h
  split at h
  · rw [generate, Run.after] at h
    cases hrun : (g.generateTypes root d g.contractTypes).outcome with
    | ok b =>
      rw [hrun] at h
      cases h
    | error c' =>
      rw [hrun] at h
      cases h
      exact .inl (exists_diskError_of_generateTypes hrun)
  · rename_i types c' hbefore
    rw [Run.endingIn] at h
    cases hrun : (g.generateTypes root d types).outcome with
    | ok b =>
      rw [hrun] at h
      cases h
      exact .inr (exists_obstacle_of_beforeObstacle (congrArg Prod.snd hbefore))
    | error c'' =>
      rw [hrun] at h
      cases h
      exact .inl (exists_diskError_of_generateTypes hrun)

/-- A batch that was generated within the limits is the one without them. -/
lemma generate_of_generateWithin {root : Option Path} {d : Disk} {b : Batch}
    (h : (g.generateWithin root d).outcome = .ok b) : (g.generate root d).outcome = .ok b := by
  rw [generateWithin] at h
  split at h
  · exact h
  · rename_i types c hbefore
    rw [Run.endingIn] at h
    cases hrun : (g.generateTypes root d types).outcome with
    | ok b => simp [hrun, Except.bind] at h
    | error c' => simp [hrun, Except.bind] at h

/-- Without an obstacle the limits make no difference. -/
lemma generateWithin_eq (h : ∀ t ∈ g.contractTypes, g.obstacle? t = none) (root : Option Path)
    (d : Disk) : g.generateWithin root d = g.generate root d := by
  have hbefore : ∀ ts : List ContractType, (∀ t ∈ ts, g.obstacle? t = none) →
      g.beforeObstacle ts = (ts, none) := by
    intro ts hts
    induction ts with
    | nil => rfl
    | cons t rest ih =>
      rw [List.forall_mem_cons] at hts
      rw [beforeObstacle, hts.1, ih hts.2]
  rw [generateWithin, hbefore _ h]

end DataContract.Generator
