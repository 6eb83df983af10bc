/-
Writing texts into files.

A text is written as its encoding.  If it has none, then its file is left empty,
and nothing is written after it.  So texts that are written one after another
leave the disk as files do: those of all texts, or those of the texts before the
first one without an encoding, and an empty one in its place.
-/
import DataContract.Proofs.Disk.Writing

namespace DataContract.Disk

variable {d d' : Disk} {p : Path} {s : String}

/-! ### One text -/

/-- A text is written exactly if it has an encoding and its file can be written. -/
lemma writeText_eq_ok_iff :
    d.writeText p s = (d', .ok ()) ↔ Text.isEncodable s = true ∧ d.write p s.toUTF8 = .ok d' := by
  rw [writeText]
  cases Text.isEncodable s with
  | true =>
    simp only [if_true]
    cases d.write p s.toUTF8 <;> simp
  | false =>
    simp only [Bool.false_eq_true, if_false]
    cases d.write p .empty <;> simp

/-- A text without an encoding leaves its file empty. -/
lemma writeText_of_not_encodable (h : Text.isEncodable s = false)
    (hwrite : d.write p .empty = .ok d') : d.writeText p s = (d', .error .unencodable) := by
  simp [writeText, h, hwrite]

/-! ### One text after another -/

/-- Write texts into files, one after another, up to the first one that cannot be written. -/
def writeTexts (d : Disk) : List (Path × String) → Disk × Except DiskError Unit
  | [] => (d, .ok ())
  | (p, s) :: rest =>
    match d.writeText p s with
    | (d', .ok ()) => d'.writeTexts rest
    | (d', .error e) => (d', .error e)

/-- A text with its place, as a file. -/
def encoded (j : Path × String) : Path × ByteArray := (j.1, j.2.toUTF8)

/-- The writing goes on with the next text exactly if this one is written. -/
lemma writeTexts_cons_eq_ok_iff {rest : List (Path × String)} :
    d.writeTexts ((p, s) :: rest) = (d', .ok ()) ↔
      ∃ d₁, d.writeText p s = (d₁, .ok ()) ∧ d₁.writeTexts rest = (d', .ok ()) := by
  rw [writeTexts]
  obtain ⟨d₁, result⟩ := d.writeText p s
  cases result <;> simp

/-- Texts are written exactly if all of them have an encoding and their files can be written. -/
lemma writeTexts_eq_ok_iff {jobs : List (Path × String)} :
    d.writeTexts jobs = (d', .ok ()) ↔
      (∀ j ∈ jobs, Text.isEncodable j.2 = true) ∧ d.writeAll (jobs.map encoded) = .ok d' := by
  induction jobs generalizing d with
  | nil => simp [writeTexts, writeAll]
  | cons j rest ih =>
    obtain ⟨p, s⟩ := j
    rw [writeTexts_cons_eq_ok_iff, List.forall_mem_cons, List.map_cons, encoded, writeAll]
    constructor
    · rintro ⟨d₁, hfirst, hrest⟩
      obtain ⟨hs, hwrite⟩ := writeText_eq_ok_iff.mp hfirst
      obtain ⟨htexts, hwrites⟩ := ih.mp hrest
      rw [hwrite]
      exact ⟨⟨hs, htexts⟩, hwrites⟩
    · rintro ⟨⟨hs, htexts⟩, hwrites⟩
      obtain ⟨d₁, hwrite, hwrites⟩ := bind_eq_ok hwrites
      exact ⟨d₁, writeText_eq_ok_iff.mpr ⟨hs, hwrite⟩, ih.mpr ⟨htexts, hwrites⟩⟩

/-- The first text without an encoding leaves an empty file and ends the writing. -/
lemma writeTexts_of_not_encodable {before after : List (Path × String)}
    (hbefore : ∀ j ∈ before, Text.isEncodable j.2 = true) (h : Text.isEncodable s = false)
    (hwrite : d.writeAll (before.map encoded ++ [(p, .empty)]) = .ok d') :
    d.writeTexts (before ++ (p, s) :: after) = (d', .error .unencodable) := by
  induction before generalizing d with
  | nil =>
    rw [List.map_nil, List.nil_append, writeAll] at hwrite
    obtain ⟨d₁, hwrite, hend⟩ := bind_eq_ok hwrite
    cases hend
    rw [List.nil_append, writeTexts, writeText_of_not_encodable h hwrite]
  | cons j rest ih =>
    obtain ⟨q, t⟩ := j
    rw [List.forall_mem_cons] at hbefore
    rw [List.map_cons, List.cons_append, encoded, writeAll] at hwrite
    obtain ⟨d₁, hfirst, hwrite⟩ := bind_eq_ok hwrite
    rw [List.cons_append, writeTexts, writeText_eq_ok_iff.mpr ⟨hbefore.1, hfirst⟩]
    exact ih hbefore.2 hwrite

/-- What the disk holds after the first text without an encoding, if it accepts all files so far:
the files before it, and an empty one in its place. -/
lemma exists_wroteAll_of_not_encodable {directory : Path} {before : List (Path × String)}
    (after : List (Path × String))
    (hdirectory : ∀ j ∈ before ++ [(p, s)], j.1.parent = directory)
    (hdistinct : ((before ++ [(p, s)]).map (fun j => j.1.place)).Nodup)
    (haccepts : ∀ j ∈ before ++ [(p, s)], d.Accepts j.1)
    (hbefore : ∀ j ∈ before, Text.isEncodable j.2 = true) (h : Text.isEncodable s = false) :
    ∃ d', d.writeTexts (before ++ (p, s) :: after) = (d', .error .unencodable) ∧
      d.WroteAll (before.map encoded ++ [(p, .empty)]) d' := by
  -- the files have the paths of the texts
  have hpaths : ∀ j ∈ before.map encoded ++ [(p, .empty)], ∃ i ∈ before ++ [(p, s)], i.1 = j.1 := by
    intro j hj
    obtain hj | hj := List.mem_append.mp hj
    · obtain ⟨i, hi, rfl⟩ := List.mem_map.mp hj
      exact ⟨i, List.mem_append_left _ hi, rfl⟩
    · exact ⟨(p, s), by simp, by rw [List.mem_singleton.mp hj]⟩
  have hparent : ∀ j ∈ before.map encoded ++ [(p, .empty)], j.1.parent = directory := by
    intro j hj
    obtain ⟨i, hi, heq⟩ := hpaths j hj
    exact heq ▸ hdirectory i hi
  have hall : ∀ j ∈ before.map encoded ++ [(p, .empty)], d.Accepts j.1 := by
    intro j hj
    obtain ⟨i, hi, heq⟩ := hpaths j hj
    exact heq ▸ haccepts i hi
  obtain ⟨d', hwrites⟩ := (writeAll_succeeds_iff hparent).mpr hall
  refine ⟨d', writeTexts_of_not_encodable hbefore h hwrites, ?_⟩
  refine wroteAll_of_writeAll hparent ?_ hwrites
  simpa [Function.comp_def, encoded] using hdistinct

end DataContract.Disk
