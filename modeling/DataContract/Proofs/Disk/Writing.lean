/-
What a disk holds after files were written.

A disk accepts a path if the path fits, if no file stands on the way to its
place, and if no directory stands at it or has to be made there.  Exactly then a
file can be written.  Afterwards it stands at its place, there are directories on
the way, and everything else is as before.  Files that lie in one directory do
not get in each other's way, and writing them once more changes nothing.
-/
import DataContract.Proofs.Disk.Places

namespace DataContract.Disk

variable {d d' : Disk} {p q : Path} {content : ByteArray}

/-- A file can be written: its path fits, and nothing stands in its way. -/
structure Accepts (d : Disk) (p : Path) : Prop where
  fits : p.Fits
  /-- No file stands where a directory has to be. -/
  free : ∀ way ∈ p.directories, ∀ content, d.get? way ≠ some (.file content)
  /-- No directory stands where the file has to be. -/
  noDirectory : d.get? p.place ≠ some .directory
  /-- The file has its own place, and not one of the directories that lead to it. -/
  apart : p.place ∉ p.directories

/-- A file has been written: it stands at its place, there are directories on the way to it, and all
else is as before. -/
structure Wrote (d : Disk) (p : Path) (content : ByteArray) (d' : Disk) : Prop where
  get?_eq : ∀ place, d'.get? place =
    if place = p.place then some (.file content)
    else if place ∈ p.directories then some .directory else d.get? place
  holds : d'.Holds p.place (.file content)
  keeps : ∀ place e, place ≠ p.place → d.Holds place e → d'.Holds place e

/-! ### One file -/

lemma write_of_locate {d₁ : Disk}
    (hmake : d.makeDirectories p.anchor p.parent.parts.reverse = .ok d₁)
    (hlocate : d₁.locate p = .ok p.place) (hfile : d₁.get? p.place ≠ some .directory) :
    d.write p content = .ok (d₁.put p.place (.file content)) := by
  simp only [write, hmake, hlocate, bind, Except.bind]

lemma Accepts.exists_concat (h : d.Accepts p) :
    ∃ anchor parts part, p = ⟨anchor, parts ++ [part]⟩ := by
  obtain ⟨anchor, parts⟩ := p
  rcases List.eq_nil_or_concat' parts with rfl | ⟨parts, part, rfl⟩
  · exact absurd (get?_nil d) h.noDirectory
  · exact ⟨anchor, parts, part, rfl⟩

/-- The place of an accepted file is not the working directory. -/
lemma Accepts.place_ne_nil (h : d.Accepts p) : p.place ≠ [] := by
  intro hnil
  have hno := h.noDirectory
  rw [hnil] at hno
  exact hno (get?_nil d)

/-- A file is written where the disk accepts it. -/
lemma Accepts.write (h : d.Accepts p) (content : ByteArray) :
    ∃ d', d.write p content = .ok d' ∧ d.Wrote p content d' := by
  obtain ⟨anchor, parts, part, rfl⟩ := h.exists_concat
  have hparent : (Path.mk anchor (parts ++ [part])).parent.parts = parts := by simp [Path.parent]
  have hways : (Path.mk anchor (parts ++ [part])).directories = waypoints parts := by
    rw [Path.directories, hparent]
  have hfree : d.Unblocked parts := fun way hway => h.free way (hways ▸ hway)
  have happart : placeOf (parts ++ [part]) ∉ waypoints parts := hways ▸ h.apart
  obtain ⟨d₁, hmake, hprepared⟩ := makeDirectories_of_unblocked h.fits.of_concat hfree
  have hlocate := locate_concat_eq_ok_iff.mpr ⟨h.fits, hprepared.leads, rfl⟩
  have hfile : d₁.get? (placeOf (parts ++ [part])) ≠ some .directory := by
    rw [hprepared.get?_eq, if_neg happart]
    exact h.noDirectory
  have hne : placeOf (parts ++ [part]) ≠ [] := fun hnil => hfile (by rw [hnil, get?_nil])
  refine ⟨_, write_of_locate (by rw [hparent]; exact hmake) hlocate hfile, fun place => ?_,
    holds_put _ _ _, fun place e hplace he => ?_⟩
  · rw [hways, Path.place, get?_put hne, hprepared.get?_eq]
  · exact (hprepared.holds place e he).put_of_ne hplace

/-! ### What a success says -/

lemma unblocked_of_makeDirectory {anchor : Nat} {parts : List String} {part : String}
    (h : d.makeDirectory ⟨anchor, parts ++ [part]⟩ = .ok d') :
    Path.Fits ⟨anchor, parts ++ [part]⟩ ∧ d.Leads parts ∧
      ∀ content, d.get? (placeOf (parts ++ [part])) ≠ some (.file content) := by
  rw [makeDirectory] at h
  obtain ⟨place, hlocate, h⟩ := bind_eq_ok h
  obtain ⟨hfits, hlead, rfl⟩ := locate_concat_eq_ok_iff.mp hlocate
  refine ⟨hfits, hlead, fun content hfile => ?_⟩
  rw [hfile] at h
  cases h

/-- Directories can only be made if the way is not blocked. -/
lemma unblocked_of_makeDirectories {anchor : Nat} {parts : List String}
    (h : d.makeDirectories anchor parts.reverse = .ok d') : d.Unblocked parts := by
  induction parts using List.reverseRecOn generalizing d' with
  | nil => exact unblocked_nil d
  | append_singleton parts part ih =>
    rw [List.reverse_append, List.reverse_singleton, List.singleton_append, makeDirectories,
      List.reverse_cons, List.reverse_reverse] at h
    rw [unblocked_concat_iff]
    split at h
    · obtain ⟨d₁, hd₁, h⟩ := bind_eq_ok h
      obtain ⟨hfits, -, hlast⟩ := unblocked_of_makeDirectory h
      have hparts := ih hd₁
      obtain ⟨d₂, hd₂, hprepared⟩ := makeDirectories_of_unblocked hfits.of_concat hparts
      cases hd₁.symm.trans hd₂
      refine ⟨hparts, fun content hfile => ?_⟩
      have hsame := hprepared.get?_eq (placeOf (parts ++ [part]))
      split at hsame
      · rename_i hway
        exact hparts _ hway content hfile
      · exact hlast content (hsame.trans hfile)
    · obtain ⟨-, hlead, hlast⟩ := unblocked_of_makeDirectory h
      exact ⟨hlead.unblocked, hlast⟩

/-- **A file can be written exactly if the disk accepts its path.** -/
lemma write_succeeds_iff : Succeeds (d.write p content) ↔ d.Accepts p := by
  constructor
  · rintro ⟨d', h⟩
    rw [write] at h
    obtain ⟨d₁, hmake, h⟩ := bind_eq_ok h
    obtain ⟨place, hlocate, h⟩ := bind_eq_ok h
    have hfree := unblocked_of_makeDirectories hmake
    obtain ⟨anchor, parts⟩ := p
    rcases List.eq_nil_or_concat' parts with rfl | ⟨parts, part, rfl⟩
    · -- without components the path leads to the working directory
      exfalso
      rw [locate] at hlocate
      split at hlocate
      · cases hlocate
      · split at hlocate
        · cases hlocate
        · split at hlocate
          · cases hlocate
          · cases hlocate
            cases h
    · have hparent : (Path.mk anchor (parts ++ [part])).parent.parts = parts := by
        simp [Path.parent]
      obtain ⟨hfits, -, rfl⟩ := locate_concat_eq_ok_iff.mp hlocate
      rw [hparent] at hmake hfree
      obtain ⟨d₂, hd₂, hprepared⟩ := makeDirectories_of_unblocked hfits.of_concat hfree
      cases hmake.symm.trans hd₂
      have hfile : d₁.get? (placeOf (parts ++ [part])) ≠ some .directory := by
        intro hdirectory
        rw [hdirectory] at h
        cases h
      have hapart : placeOf (parts ++ [part]) ∉ waypoints parts :=
        fun hway => hfile (hprepared.leads _ hway)
      refine ⟨hfits, ?_, ?_, ?_⟩
      · rw [Path.directories, hparent]
        exact hfree
      · rw [hprepared.get?_eq, if_neg hapart] at hfile
        exact hfile
      · rw [Path.directories, hparent]
        exact hapart
  · intro h
    obtain ⟨d', hd', -⟩ := h.write content
    exact ⟨d', hd'⟩

/-! ### Files of one directory -/

/-- Write files one after another. -/
def writeAll (d : Disk) : List (Path × ByteArray) → Except DiskError Disk
  | [] => .ok d
  | (p, content) :: rest => do (← d.write p content).writeAll rest

lemma Wrote.get?_of_mem (h : d.Wrote p content d') (hapart : p.place ∉ p.directories)
    {way : List String} (hway : way ∈ p.directories) : d'.get? way = some .directory := by
  have hne : way ≠ p.place := fun heq => hapart (heq ▸ hway)
  rw [h.get?_eq, if_neg hne, if_pos hway]

/-- A file that is written keeps no other one out of the same directory. -/
lemma Accepts.after_write (hp : d.Accepts p) (hw : d.Wrote p content d')
    (hdirectory : q.parent = p.parent) : d'.Accepts q ↔ d.Accepts q := by
  have hways : q.directories = p.directories := by
    rw [Path.directories, Path.directories, hdirectory]
  have hfile : q.place ∉ p.directories →
      (d'.get? q.place ≠ some .directory ↔
        q.place = p.place ∨ d.get? q.place ≠ some .directory) := by
    intro hq
    rw [hw.get?_eq, if_neg hq]
    by_cases hplace : q.place = p.place <;> simp [hplace]
  constructor
  · intro h
    have hq := hways ▸ h.apart
    refine ⟨h.fits, fun way hway => hp.free way (hways ▸ hway), ?_, h.apart⟩
    obtain heq | hne := (hfile hq).mp h.noDirectory
    · rw [heq]
      exact hp.noDirectory
    · exact hne
  · intro h
    have hq := hways ▸ h.apart
    refine ⟨h.fits, fun way hway other => ?_, (hfile hq).mpr (.inr h.noDirectory), h.apart⟩
    rw [hw.get?_of_mem hp.apart (hways ▸ hway)]
    simp

/-- Files of one directory have been written. -/
structure WroteAll (d : Disk) (jobs : List (Path × ByteArray)) (d' : Disk) : Prop where
  file : ∀ j ∈ jobs, d'.Holds j.1.place (.file j.2)
  directory : ∀ j ∈ jobs, ∀ way ∈ j.1.directories, d'.get? way = some .directory
  other : ∀ place, (∀ j ∈ jobs, place ≠ j.1.place ∧ place ∉ j.1.directories) →
    d'.get? place = d.get? place
  keeps : ∀ place e, (∀ j ∈ jobs, place ≠ j.1.place) → d.Holds place e → d'.Holds place e

/-- Files of one directory with different places are written exactly if each of them is accepted. -/
lemma writeAll_succeeds_iff {directory : Path} {jobs : List (Path × ByteArray)}
    (hdirectory : ∀ j ∈ jobs, j.1.parent = directory) :
    Succeeds (d.writeAll jobs) ↔ ∀ j ∈ jobs, d.Accepts j.1 := by
  induction jobs generalizing d with
  | nil => simp [writeAll, Succeeds.ok]
  | cons j rest ih =>
    obtain ⟨p, content⟩ := j
    have hp : p.parent = directory := hdirectory (p, content) (by simp)
    have hrest : ∀ j ∈ rest, j.1.parent = directory := fun j hj => hdirectory j (by simp [hj])
    rw [List.forall_mem_cons, writeAll]
    constructor
    · rintro ⟨d', h⟩
      obtain ⟨d₁, hwrite, h⟩ := bind_eq_ok h
      have haccepts : d.Accepts p := write_succeeds_iff.mp ⟨d₁, hwrite⟩
      obtain ⟨d₂, hd₂, hwrote⟩ := haccepts.write content
      cases hwrite.symm.trans hd₂
      refine ⟨haccepts, fun j hj => ?_⟩
      exact (haccepts.after_write hwrote ((hrest j hj).trans hp.symm)).mp
        ((ih hrest).mp ⟨d', h⟩ j hj)
    · rintro ⟨haccepts, h⟩
      obtain ⟨d₁, hwrite, hwrote⟩ := haccepts.write content
      rw [hwrite]
      refine (ih hrest).mpr (fun j hj => ?_)
      exact (haccepts.after_write hwrote ((hrest j hj).trans hp.symm)).mpr (h j hj)

/-- What the disk holds after files of one directory were written. -/
lemma wroteAll_of_writeAll {directory : Path} {jobs : List (Path × ByteArray)}
    (hdirectory : ∀ j ∈ jobs, j.1.parent = directory)
    (hdistinct : (jobs.map (fun j => j.1.place)).Nodup) (h : d.writeAll jobs = .ok d') :
    d.WroteAll jobs d' := by
  induction jobs generalizing d with
  | nil =>
    cases h
    exact ⟨by simp, by simp, fun _ _ => rfl, fun _ _ _ he => he⟩
  | cons j rest ih =>
    obtain ⟨p, content⟩ := j
    have hp : p.parent = directory := hdirectory (p, content) (by simp)
    have hrest : ∀ j ∈ rest, j.1.parent = directory := fun j hj => hdirectory j (by simp [hj])
    rw [List.map_cons, List.nodup_cons, List.mem_map] at hdistinct
    have haccepts := (writeAll_succeeds_iff hdirectory).mp ⟨d', h⟩
    rw [writeAll] at h
    obtain ⟨d₁, hwrite, h⟩ := bind_eq_ok h
    have hp₀ := haccepts (p, content) (by simp)
    obtain ⟨d₂, hd₂, hwrote⟩ := hp₀.write content
    cases hwrite.symm.trans hd₂
    have hall := ih hrest hdistinct.2 h
    have hnew : ∀ j ∈ rest, p.place ≠ j.1.place := fun j hj heq => hdistinct.1 ⟨j, hj, heq.symm⟩
    have hways : ∀ j ∈ rest, j.1.directories = p.directories := by
      intro j hj
      rw [Path.directories, Path.directories, hrest j hj, hp]
    refine ⟨?_, ?_, ?_, ?_⟩
    · intro j hj
      obtain rfl | hj := List.mem_cons.mp hj
      · exact hall.keeps _ _ hnew hwrote.holds
      · exact hall.file j hj
    · intro j hj way hway
      obtain rfl | hj := List.mem_cons.mp hj
      · -- the directories are those of the other files, or they have been made for this one alone
        cases hrests : rest with
        | nil =>
          subst hrests
          cases h
          exact hwrote.get?_of_mem hp₀.apart hway
        | cons j rest' =>
          have hj : j ∈ rest := by simp [hrests]
          exact hall.directory j hj way (hways j hj ▸ hway)
      · exact hall.directory j hj way hway
    · intro place hplace
      rw [List.forall_mem_cons] at hplace
      rw [hall.other place hplace.2, hwrote.get?_eq, if_neg hplace.1.1, if_neg hplace.1.2]
    · intro place e hplace he
      rw [List.forall_mem_cons] at hplace
      exact hall.keeps place e hplace.2 (hwrote.keeps place e hplace.1 he)

/-! ### Writing once more -/

/-- A file that stands there already is written without a change. -/
lemma write_eq_self (hfits : p.Fits) (hapart : p.place ∉ p.directories)
    (hholds : d.Holds p.place (.file content))
    (hways : ∀ way ∈ p.directories, d.get? way = some .directory) :
    d.write p content = .ok d := by
  have hne : p.place ≠ [] := by
    intro hnil
    rw [hnil] at hapart
    exact hapart (List.mem_map.mpr ⟨[], by simp, rfl⟩)
  obtain ⟨anchor, parts⟩ := p
  rcases List.eq_nil_or_concat' parts with rfl | ⟨parts, part, rfl⟩
  · exact absurd rfl hne
  · have hparent : (Path.mk anchor (parts ++ [part])).parent.parts = parts := by
      simp [Path.parent]
    have hlead : d.Leads parts := by
      rw [Path.directories, hparent] at hways
      exact hways
    have hmake : d.makeDirectories anchor parts.reverse = .ok d :=
      makeDirectories_eq_self hfits.of_concat hlead
    rw [write_of_locate (by rw [hparent]; exact hmake)
      (locate_concat_eq_ok_iff.mpr ⟨hfits, hlead, rfl⟩) (by simp [hholds.get?_eq hne]),
      hholds.put_eq]

lemma writeAll_eq_self {jobs : List (Path × ByteArray)}
    (h : ∀ j ∈ jobs, d.write j.1 j.2 = .ok d) : d.writeAll jobs = .ok d := by
  induction jobs with
  | nil => rfl
  | cons j rest ih =>
    rw [List.forall_mem_cons] at h
    rw [writeAll, h.1]
    exact ih h.2

/-- Files of one directory that have been written are written once more without a change. -/
lemma WroteAll.writeAll_eq {jobs : List (Path × ByteArray)} (h : d.WroteAll jobs d')
    (haccepts : ∀ j ∈ jobs, d.Accepts j.1) : d'.writeAll jobs = .ok d' :=
  writeAll_eq_self (fun j hj => write_eq_self (haccepts j hj).fits (haccepts j hj).apart
    (h.file j hj) (h.directory j hj))

end DataContract.Disk
