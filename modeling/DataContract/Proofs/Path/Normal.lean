/-
Normal forms of paths, and the way from a directory to a file.

In the normal form of a relative path every `..` stands in front of the names.
One step of the normalisation keeps this form, and components that have it
already are taken over as they are.  The path from a directory to a file climbs
out of what the two do not share, one `..` for each name, and goes down to the
file; so if the directory does not lie above the place that both are relative
to, the path leads from the directory back to the file.
-/
import DataContract.Path
import DataContract.Proofs.Text.Occurrence
import Mathlib.Data.List.Induction

namespace DataContract

/-! ### Components in normal form -/

/-- A component that names something. -/
structure IsName (part : String) : Prop where
  ne_empty : part ≠ ""
  ne_here : part ≠ "."
  ne_up : part ≠ ".."
  slash_notMem : '/' ∉ part.toList

/-- Some `..`, and names after them. -/
def InNormalForm (parts : List String) : Prop :=
  ∃ n names, parts = List.replicate n ".." ++ names ∧ ∀ part ∈ names, IsName part

lemma inNormalForm_ups (n : Nat) : InNormalForm (List.replicate n "..") :=
  ⟨n, [], by simp, by simp⟩

lemma InNormalForm.ups_append {parts : List String} (h : InNormalForm parts) (n : Nat) :
    InNormalForm (List.replicate n ".." ++ parts) := by
  obtain ⟨m, names, rfl, hnames⟩ := h
  exact ⟨n + m, names, by rw [← List.append_assoc, List.replicate_append_replicate], hnames⟩

lemma InNormalForm.append_name {parts : List String} (h : InNormalForm parts) {part : String}
    (hpart : IsName part) : InNormalForm (parts ++ [part]) := by
  obtain ⟨n, names, rfl, hnames⟩ := h
  refine ⟨n, names ++ [part], List.append_assoc _ _ _, fun p hp => ?_⟩
  rcases List.mem_append.mp hp with hp | hp
  · exact hnames p hp
  · rw [List.mem_singleton.mp hp]
    exact hpart

/-- A normal list has only `..`, or it ends with a name after a normal list. -/
lemma InNormalForm.cases_last {parts : List String} (h : InNormalForm parts) :
    (∃ n, parts = List.replicate n "..") ∨
      ∃ front last, parts = front ++ [last] ∧ InNormalForm front ∧ IsName last := by
  obtain ⟨n, names, rfl, hnames⟩ := h
  rcases List.eq_nil_or_concat names with rfl | ⟨front, last, rfl⟩
  · exact .inl ⟨n, List.append_nil _⟩
  · refine .inr ⟨List.replicate n ".." ++ front, last, by simp, ?_, hnames last (by simp)⟩
    exact ⟨n, front, rfl, fun p hp => hnames p (by simp [hp])⟩

/-- A component of a normal list is a name, or it is `..` and so are all before it. -/
lemma InNormalForm.cases_middle {front rest : List String} {part : String}
    (h : InNormalForm (front ++ part :: rest)) :
    IsName part ∨ part = ".." ∧ front = List.replicate front.length ".." := by
  obtain ⟨n, names, heq, hnames⟩ := h
  rcases List.append_eq_append_iff.mp heq with ⟨ups, hups, hrest⟩ | ⟨middle, hfront, hmiddle⟩
  · cases ups with
    | nil =>
      left
      refine hnames part ?_
      rw [← hrest.trans (List.nil_append _)]
      simp
    | cons up ups =>
      right
      rw [List.cons_append, List.cons.injEq] at hrest
      have hall : ∀ p ∈ front ++ up :: ups, p = ".." := by
        intro p hp
        rw [← hups] at hp
        exact List.eq_of_mem_replicate hp
      refine ⟨hrest.1.trans (hall up (by simp)), List.eq_replicate_of_mem (fun p hp => ?_)⟩
      exact hall p (by simp [hp])
  · left
    exact hnames part (by simp [hmiddle])

lemma InNormalForm.of_append_right {front rest : List String} (h : InNormalForm (front ++ rest)) :
    InNormalForm rest := by
  induction front with
  | nil => exact h
  | cons part front ih =>
    refine ih ?_
    obtain ⟨n, names, heq, hnames⟩ := h
    cases n with
    | zero =>
      rw [List.replicate_zero, List.nil_append, List.cons_append] at heq
      refine ⟨0, front ++ rest, rfl, fun p hp => hnames p ?_⟩
      rw [← heq]
      exact List.mem_cons_of_mem _ hp
    | succ n =>
      rw [List.replicate_succ, List.cons_append, List.cons_append, List.cons.injEq] at heq
      exact ⟨n, names, heq.2, hnames⟩

/-- Without `..` in front there are only names. -/
lemma InNormalForm.isName_of_mem {parts : List String} (h : InNormalForm parts)
    (hhead : parts.head? ≠ some "..") : ∀ part ∈ parts, IsName part := by
  obtain ⟨n, names, rfl, hnames⟩ := h
  cases n with
  | zero => simpa using hnames
  | succ n => simp [List.replicate_succ] at hhead

lemma InNormalForm.of_mem {parts : List String} (h : InNormalForm parts) {part : String}
    (hpart : part ∈ parts) : part ≠ "" ∧ part ≠ "." ∧ '/' ∉ part.toList := by
  obtain ⟨n, names, rfl, hnames⟩ := h
  rcases List.mem_append.mp hpart with hup | hname
  · rw [List.eq_of_mem_replicate hup]
    decide
  · have hpart := hnames part hname
    exact ⟨hpart.ne_empty, hpart.ne_here, hpart.slash_notMem⟩

/-! ### One component after another -/

lemma normalStep_of_isName {part : String} (h : IsName part) (acc : List String) :
    normalStep acc part = acc ++ [part] := by
  simp [normalStep, h.ne_empty, h.ne_here, h.ne_up]

lemma normalStep_ups (n : Nat) :
    normalStep (List.replicate n "..") ".." = List.replicate (n + 1) ".." := by
  cases n with
  | zero => rfl
  | succ n => simp [normalStep, List.getLast?_replicate, ← List.replicate_succ']

/-- A `..` takes the name before it away. -/
lemma normalStep_up_of_isName {last : String} (h : IsName last) (acc : List String) :
    normalStep (acc ++ [last]) ".." = acc := by
  simp [normalStep, h.ne_up]

lemma cases_part {part : String} (h : '/' ∉ part.toList) :
    (part = "" ∨ part = ".") ∨ part = ".." ∨ IsName part := by
  by_cases hempty : part = ""
  · exact .inl (.inl hempty)
  · by_cases hhere : part = "."
    · exact .inl (.inr hhere)
    · by_cases hup : part = ".."
      · exact .inr (.inl hup)
      · exact .inr (.inr ⟨hempty, hhere, hup, h⟩)

lemma normalStep_of_skipped {part : String} (h : part = "" ∨ part = ".") (acc : List String) :
    normalStep acc part = acc := by
  rcases h with rfl | rfl
  · rfl
  · rfl

/-- A step keeps the normal form. -/
lemma InNormalForm.normalStep {acc : List String} (h : InNormalForm acc) {part : String}
    (hpart : '/' ∉ part.toList) : InNormalForm (normalStep acc part) := by
  rcases cases_part hpart with hskip | rfl | hname
  · rw [normalStep_of_skipped hskip]
    exact h
  · rcases h.cases_last with ⟨n, rfl⟩ | ⟨front, last, rfl, hfront, hlast⟩
    · rw [normalStep_ups]
      exact inNormalForm_ups _
    · rw [normalStep_up_of_isName hlast]
      exact hfront
  · rw [normalStep_of_isName hname]
    exact h.append_name hname

lemma InNormalForm.foldl_normalStep {acc : List String} (h : InNormalForm acc)
    {parts : List String} (hparts : ∀ part ∈ parts, '/' ∉ part.toList) :
    InNormalForm (parts.foldl DataContract.normalStep acc) := by
  induction parts generalizing acc with
  | nil => exact h
  | cons part parts ih =>
    rw [List.forall_mem_cons] at hparts
    exact ih (h.normalStep hparts.1) hparts.2

/-- Components that continue a normal list are taken over as they are. -/
lemma foldl_normalStep_of_inNormalForm {acc parts : List String} (h : InNormalForm (acc ++ parts)) :
    parts.foldl normalStep acc = acc ++ parts := by
  induction parts generalizing acc with
  | nil => simp
  | cons part parts ih =>
    have hstep : normalStep acc part = acc ++ [part] := by
      rcases h.cases_middle with hname | ⟨rfl, hups⟩
      · exact normalStep_of_isName hname acc
      · rw [hups, normalStep_ups, List.replicate_succ']
    rw [List.foldl_cons, hstep, ih (by simpa using h)]
    simp

/-- As many `..` as there are names lead out of them. -/
lemma foldl_normalStep_ups {up : List String} (hup : ∀ part ∈ up, IsName part)
    (common : List String) :
    (List.replicate up.length "..").foldl normalStep (common ++ up) = common := by
  induction up using List.reverseRecOn with
  | nil => simp
  | append_singleton up last ih =>
    rw [List.length_append, List.length_singleton, List.replicate_succ, List.foldl_cons,
      ← List.append_assoc, normalStep_up_of_isName (hup last (by simp))]
    exact ih (fun part hpart => hup part (by simp [hpart]))

/-- A `..` in front is never taken away. -/
lemma InNormalForm.head?_normalStep {acc : List String} (h : InNormalForm acc)
    (hhead : acc.head? = some "..") {part : String} (hpart : '/' ∉ part.toList) :
    (DataContract.normalStep acc part).head? = some ".." := by
  rcases cases_part hpart with hskip | rfl | hname
  · rw [normalStep_of_skipped hskip]
    exact hhead
  · rcases h.cases_last with ⟨n, rfl⟩ | ⟨front, last, rfl, -, hlast⟩
    · rw [normalStep_ups, List.replicate_succ, List.head?_cons]
    · rw [normalStep_up_of_isName hlast]
      cases front with
      | nil => exact absurd (by simpa using hhead) hlast.ne_up
      | cons first front => simpa using hhead
  · rw [normalStep_of_isName hname, List.head?_append, hhead, Option.some_or]

/-! ### From a directory to a file -/

/-- What two lists have in common at the start stands in front of what is left of both. -/
lemma exists_common_of_dropCommon (as bs : List String) :
    ∃ common, as = common ++ (dropCommon as bs).1 ∧ bs = common ++ (dropCommon as bs).2 := by
  induction as generalizing bs with
  | nil => exact ⟨[], by simp [dropCommon], by simp [dropCommon]⟩
  | cons a as ih =>
    cases bs with
    | nil => exact ⟨[], by simp [dropCommon], by simp [dropCommon]⟩
    | cons b bs =>
      by_cases hab : a = b
      · obtain ⟨common, has, hbs⟩ := ih bs
        subst hab
        refine ⟨a :: common, ?_, ?_⟩
        · simpa [dropCommon] using has
        · simpa [dropCommon] using hbs
      · exact ⟨[], by simp [dropCommon, hab], by simp [dropCommon, hab]⟩

lemma dropCommon_self (as : List String) : dropCommon as as = ([], []) := by
  induction as with
  | nil => rfl
  | cons a as ih => simpa [dropCommon] using ih

/-- The components of the path from a directory to a file, both in normal form. -/
def wayFrom (directory file : List String) : List String :=
  List.replicate (dropCommon directory file).1.length ".." ++ (dropCommon directory file).2

lemma inNormalForm_wayFrom {file : List String} (h : InNormalForm file) (directory : List String) :
    InNormalForm (wayFrom directory file) := by
  obtain ⟨common, -, hfile⟩ := exists_common_of_dropCommon directory file
  rw [hfile] at h
  exact h.of_append_right.ups_append _

/-- The way leads from the directory to the file. -/
lemma foldl_wayFrom {directory file : List String} (hdirectory : ∀ part ∈ directory, IsName part)
    (hfile : InNormalForm file) : (wayFrom directory file).foldl normalStep directory = file := by
  obtain ⟨common, hup, hdown⟩ := exists_common_of_dropCommon directory file
  have hnames : ∀ part ∈ (dropCommon directory file).1, IsName part := by
    intro part hpart
    refine hdirectory part ?_
    rw [hup]
    exact List.mem_append_right _ hpart
  have hclimb : (List.replicate (dropCommon directory file).1.length "..").foldl normalStep
      directory = common := by
    have h := foldl_normalStep_ups hnames common
    rwa [← hup] at h
  rw [wayFrom, List.foldl_append, hclimb, foldl_normalStep_of_inNormalForm (hdown ▸ hfile), ← hdown]

/-- The way is empty exactly from a place to itself. -/
lemma wayFrom_eq_nil_iff {directory file : List String} :
    wayFrom directory file = [] ↔ directory = file := by
  constructor
  · intro h
    obtain ⟨common, hup, hdown⟩ := exists_common_of_dropCommon directory file
    simp only [wayFrom, List.append_eq_nil_iff, List.replicate_eq_nil_iff,
      List.length_eq_zero_iff] at h
    rw [h.1] at hup
    rw [h.2] at hdown
    rw [hup, hdown]
  · rintro rfl
    simp [wayFrom, dropCommon_self]

/-! ### Texts of paths -/

lemma splitSlashes_append_slash (a b : String) :
    splitSlashes (a ++ "/" ++ b) = splitSlashes a ++ splitSlashes b := by
  have hlist : (a ++ "/" ++ b).toList = a.toList ++ '/' :: b.toList := by simp
  rw [splitSlashes, hlist, Text.pieces_append_cons, List.map_append, splitSlashes, splitSlashes]

lemma splitSlashes_of_notMem {s : String} (h : '/' ∉ s.toList) : splitSlashes s = [s] := by
  rw [splitSlashes, Text.pieces_of_notMem h, List.map_singleton, String.ofList_toList]

lemma slash_notMem_of_mem_splitSlashes {s part : String} (h : part ∈ splitSlashes s) :
    '/' ∉ part.toList := by
  rw [splitSlashes, List.mem_map] at h
  obtain ⟨piece, hpiece, rfl⟩ := h
  rw [String.toList_ofList]
  exact Text.notMem_of_mem_pieces hpiece

/-- The components of a text of components are these, if no component has a slash. -/
lemma splitSlashes_intercalate {parts : List String} (hne : parts ≠ [])
    (hslash : ∀ part ∈ parts, '/' ∉ part.toList) :
    splitSlashes ("/".intercalate parts) = parts := by
  induction parts with
  | nil => exact absurd rfl hne
  | cons part parts ih =>
    rw [List.forall_mem_cons] at hslash
    by_cases hrest : parts = []
    · rw [hrest, String.intercalate_singleton, splitSlashes_of_notMem hslash.1]
    · rw [String.intercalate_cons_of_ne_nil hrest, splitSlashes_append_slash,
        splitSlashes_of_notMem hslash.1, ih hrest hslash.2, List.singleton_append]

lemma inNormalForm_normalParts (s : String) : InNormalForm (normalParts s) :=
  InNormalForm.foldl_normalStep (inNormalForm_ups 0) (fun _ => slash_notMem_of_mem_splitSlashes)

lemma normalParts_append_slash (a b : String) :
    normalParts (a ++ "/" ++ b) = (splitSlashes b).foldl normalStep (normalParts a) := by
  rw [normalParts, splitSlashes_append_slash, List.foldl_append, normalParts]

/-- A path with a slash is its directory and a component after it. -/
lemma exists_eq_directoryOf_append {path : String} (h : '/' ∈ path.toList) :
    ∃ last, path = directoryOf path ++ "/" ++ last ∧ '/' ∉ last.toList := by
  obtain ⟨back, front, hsplit, hback⟩ := List.eq_append_cons_of_mem (List.mem_reverse.mpr h)
  have hpath : path.toList = front.reverse ++ '/' :: back.reverse := by
    rw [← List.reverse_reverse path.toList, hsplit]
    simp
  have hdirectory : directoryOf path = String.ofList front.reverse := by
    rw [directoryOf, Text.beforeLast?, hsplit, List.reverse_singleton,
      Text.splitFirst?_singleton hback, Option.map_some]
  refine ⟨String.ofList back.reverse, ?_, by simpa using hback⟩
  rw [hdirectory, String.ext_iff, hpath]
  simp

/-- The directory of a path that does not climb does not climb. -/
lemma head?_normalParts_directoryOf {path : String} (hslash : '/' ∈ path.toList)
    (hpath : (normalParts path).head? ≠ some "..") :
    (normalParts (directoryOf path)).head? ≠ some ".." := by
  obtain ⟨last, heq, hlast⟩ := exists_eq_directoryOf_append hslash
  intro hhead
  refine hpath ?_
  rw [heq, normalParts_append_slash, splitSlashes_of_notMem hlast]
  exact (inNormalForm_normalParts _).head?_normalStep hhead hlast

namespace Path

lemma anchorOf_eq_zero_iff {s : String} : anchorOf s = 0 ↔ s.toList.head? ≠ some '/' := by
  rw [anchorOf]
  cases hs : s.toList with
  | nil => simp
  | cons c rest =>
    by_cases hc : c = '/'
    · have hlength : ((c :: rest).takeWhile (· == '/')).length ≠ 0 := by simp [hc]
      refine iff_of_false ?_ (by simp [hc])
      split
      · contradiction
      · simp
      · simp
    · simp [hc]

/-- The normal form of a path.  An absolute path does not climb above its root. -/
def normalise (s : String) : String :=
  text ⟨anchorOf s,
    if anchorOf s = 0 then normalParts s else (normalParts s).dropWhile (· == "..")⟩

lemma normalise_of_relative {s : String} (h : anchorOf s = 0) :
    normalise s = text ⟨0, normalParts s⟩ := by
  rw [normalise, h, if_pos rfl]

lemma text_of_ne_nil {parts : List String} (h : parts ≠ []) :
    text ⟨0, parts⟩ = "/".intercalate parts := by
  have hanchor : "".pushn '/' 0 = "" := rfl
  simp [text, h, hanchor]

lemma splitSlashes_text {parts : List String} (h : InNormalForm parts) (hne : parts ≠ []) :
    splitSlashes (text ⟨0, parts⟩) = parts := by
  rw [text_of_ne_nil hne]
  exact splitSlashes_intercalate hne (fun part hpart => (h.of_mem hpart).2.2)

lemma anchorOf_text {parts : List String} (h : InNormalForm parts) :
    anchorOf (text ⟨0, parts⟩) = 0 := by
  rw [anchorOf_eq_zero_iff]
  cases parts with
  | nil => decide
  | cons part rest =>
    obtain ⟨hempty, -, hslash⟩ := h.of_mem List.mem_cons_self
    obtain ⟨c, cs, hpart⟩ := List.exists_cons_of_ne_nil (mt String.toList_eq_nil_iff.mp hempty)
    have hc : c ≠ '/' := by
      rintro rfl
      exact hslash (by simp [hpart])
    rw [text_of_ne_nil (List.cons_ne_nil _ _)]
    by_cases hrest : rest = []
    · simpa [hrest, hpart] using hc
    · simpa [String.intercalate_cons_of_ne_nil hrest, hpart] using hc

/-- The text of components in normal form is read back. -/
lemma parse_text {parts : List String} (h : InNormalForm parts) :
    parse (text ⟨0, parts⟩) = ⟨0, parts⟩ := by
  rw [parse, anchorOf_text h]
  by_cases hne : parts = []
  · subst hne
    decide
  · rw [splitSlashes_text h hne]
    have hkeep : ∀ part ∈ parts, (part != "" && part != ".") = true := by
      intro part hpart
      obtain ⟨hempty, hhere, -⟩ := h.of_mem hpart
      simp [hempty, hhere]
    rw [List.filter_eq_self.mpr hkeep]

/-- What a text of components leads to from a place is what the components lead to. -/
lemma foldl_splitSlashes_text {parts : List String} (h : InNormalForm parts) (acc : List String) :
    (splitSlashes (text ⟨0, parts⟩)).foldl normalStep acc = parts.foldl normalStep acc := by
  by_cases hne : parts = []
  · -- the empty path is written `.`, which leads nowhere
    subst hne
    have hhere : splitSlashes (text ⟨0, []⟩) = ["."] := splitSlashes_of_notMem (by decide)
    rw [hhere]
    rfl
  · rw [splitSlashes_text h hne]

lemma normalParts_text {parts : List String} (h : InNormalForm parts) :
    normalParts (text ⟨0, parts⟩) = parts := by
  rw [normalParts, foldl_splitSlashes_text h]
  exact foldl_normalStep_of_inNormalForm h

/-- A text of components in normal form is normal itself. -/
lemma normalise_text {parts : List String} (h : InNormalForm parts) :
    normalise (text ⟨0, parts⟩) = text ⟨0, parts⟩ := by
  rw [normalise_of_relative (anchorOf_text h), normalParts_text h]

lemma text_inj {parts others : List String} (hparts : InNormalForm parts)
    (hothers : InNormalForm others) : text ⟨0, parts⟩ = text ⟨0, others⟩ ↔ parts = others := by
  constructor
  · intro h
    rw [← normalParts_text hparts, h, normalParts_text hothers]
  · rintro rfl
    rfl

lemma pathFrom_eq_text (directory file : String) :
    pathFrom directory file = text ⟨0, wayFrom (normalParts directory) (normalParts file)⟩ := by
  simp only [pathFrom, List.map_const', wayFrom]
  cases List.replicate (dropCommon (normalParts directory) (normalParts file)).1.length ".." ++
      (dropCommon (normalParts directory) (normalParts file)).2 with
  | nil => rfl
  | cons part rest => rw [text_of_ne_nil (List.cons_ne_nil _ _)]

/-- The path from a directory to a file leads back: behind the directory it has the normal form of
the file. -/
lemma normalise_append_pathFrom {directory file : String} (hne : directory ≠ "")
    (hdirectory : anchorOf directory = 0) (hclimb : (normalParts directory).head? ≠ some "..")
    (hfile : anchorOf file = 0) :
    normalise (directory ++ "/" ++ pathFrom directory file) = normalise file := by
  have hnames := (inNormalForm_normalParts directory).isName_of_mem hclimb
  have hnormal := inNormalForm_normalParts file
  have hanchor : anchorOf (directory ++ "/" ++ pathFrom directory file) = 0 := by
    rw [anchorOf_eq_zero_iff] at hdirectory ⊢
    obtain ⟨c, cs, hc⟩ := List.exists_cons_of_ne_nil (mt String.toList_eq_nil_iff.mp hne)
    simpa [hc] using hdirectory
  have hparts : normalParts (directory ++ "/" ++ pathFrom directory file) = normalParts file := by
    rw [normalParts_append_slash, pathFrom_eq_text,
      foldl_splitSlashes_text (inNormalForm_wayFrom hnormal _)]
    exact foldl_wayFrom hnames hnormal
  rw [normalise_of_relative hanchor, normalise_of_relative hfile, hparts]

end Path

end DataContract
