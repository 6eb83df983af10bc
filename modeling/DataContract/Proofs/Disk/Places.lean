/-
Places on a disk, and the directories that lead to them.

A path leads to a place by its components, and `..` takes the last one away
again.  It is followed if there are directories before its last component.  If
no file is on the way, then the directories that are missing can be made;
everything else stays as it is.
-/
import DataContract.Disk
import DataContract.Proofs.Failure
import Mathlib.Data.List.Infix
import Mathlib.Data.List.Induction
import Mathlib.Tactic.Common

namespace DataContract

/-! ### Entries -/

namespace Disk

variable {d d' : Disk} {place q : List String} {e e' : DiskEntry}

@[simp] lemma get?_nil (d : Disk) : d.get? [] = some .directory := rfl

lemma get?_of_ne_nil (hplace : place ≠ []) :
    d.get? place = (d.entries.find? (fun x => x.1 == place)).map (·.2) := by
  rw [get?, if_neg (by simpa using hplace)]

lemma mem_put {x : List String × DiskEntry} :
    x ∈ (d.put place e).entries ↔ x = (place, e) ∨ x ∈ d.entries ∧ x.1 ≠ place := by
  rw [put]
  split
  · rename_i hany
    obtain ⟨y, hy, hkey⟩ := List.any_eq_true.mp hany
    have hyplace : y.1 = place := by simpa using hkey
    simp only [List.mem_map]
    constructor
    · rintro ⟨z, hz, rfl⟩
      by_cases hzplace : z.1 = place
      · exact .inl (by simp [hzplace])
      · exact .inr (by simpa [hzplace] using hz)
    · rintro (rfl | ⟨hx, hne⟩)
      · exact ⟨y, hy, by simp [hyplace]⟩
      · exact ⟨x, hx, by simp [hne]⟩
  · rename_i hany
    have hnone : ∀ y ∈ d.entries, y.1 ≠ place :=
      fun y hy hkey => hany (List.any_eq_true.mpr ⟨y, hy, by simp [hkey]⟩)
    simp only [List.mem_append, List.mem_singleton]
    constructor
    · rintro (hx | rfl)
      · exact .inr ⟨hx, hnone x hx⟩
      · exact .inl rfl
    · rintro (rfl | ⟨hx, -⟩)
      · exact .inr rfl
      · exact .inl hx

/-- Setting one entry leaves every other one as it is. -/
lemma get?_put (hplace : place ≠ []) :
    (d.put place e).get? q = if q = place then some e else d.get? q := by
  by_cases hq : q = []
  · subst hq
    simp [Ne.symm hplace]
  rw [get?_of_ne_nil hq, get?_of_ne_nil hq, put]
  split
  · rename_i hany
    rw [List.find?_map]
    have hkeys : ((fun x : List String × DiskEntry => x.1 == q) ∘
        fun x => if x.1 == place then (place, e) else x) = fun x => x.1 == q := by
      funext x
      by_cases hx : x.1 = place <;> simp [hx]
    rw [hkeys]
    cases hfind : d.entries.find? (fun x => x.1 == q) with
    | none =>
      -- the entry that is replaced has been found, so this is another place
      have hne : q ≠ place := by
        rintro rfl
        obtain ⟨y, hy, hkey⟩ := List.any_eq_true.mp hany
        exact List.find?_eq_none.mp hfind y hy hkey
      simp [hne]
    | some x =>
      have hx : x.1 = q := by simpa using List.find?_some hfind
      by_cases hqplace : q = place <;> simp [hx, hqplace]
  · rename_i hany
    have hnone : d.entries.find? (fun x => x.1 == place) = none :=
      List.find?_eq_none.mpr (fun y hy hkey => hany (List.any_eq_true.mpr ⟨y, hy, hkey⟩))
    rw [List.find?_append]
    by_cases hqplace : q = place
    · simp [hqplace, hnone]
    · simp [hqplace, Ne.symm hqplace]

/-- An entry stands at a place, and no other one does. -/
def Holds (d : Disk) (place : List String) (e : DiskEntry) : Prop :=
  (place, e) ∈ d.entries ∧ ∀ x ∈ d.entries, x.1 = place → x = (place, e)

lemma holds_put (d : Disk) (place : List String) (e : DiskEntry) :
    (d.put place e).Holds place e := by
  refine ⟨mem_put.mpr (.inl rfl), fun x hx hplace => ?_⟩
  obtain rfl | ⟨-, hne⟩ := mem_put.mp hx
  · rfl
  · exact absurd hplace hne

lemma Holds.put_of_ne (h : d.Holds q e') (hne : q ≠ place) : (d.put place e).Holds q e' := by
  refine ⟨mem_put.mpr (.inr ⟨h.1, hne⟩), fun x hx hq => ?_⟩
  obtain rfl | ⟨hx, -⟩ := mem_put.mp hx
  · exact absurd hq.symm hne
  · exact h.2 x hx hq

/-- Setting an entry that stands there already changes nothing. -/
lemma Holds.put_eq (h : d.Holds place e) : d.put place e = d := by
  have hany : d.entries.any (fun x => x.1 == place) = true :=
    List.any_eq_true.mpr ⟨_, h.1, by simp⟩
  have hmap : d.entries.map (fun x => if x.1 == place then (place, e) else x) = d.entries := by
    refine (List.map_congr_left (fun x hx => ?_)).trans (List.map_id _)
    by_cases hxplace : x.1 = place
    · simp [h.2 x hx hxplace]
    · simp [hxplace]
  rw [put, if_pos hany, hmap]

lemma Holds.get?_ne_none (h : d.Holds place e) : d.get? place ≠ none := by
  by_cases hplace : place = []
  · simp [hplace]
  · rw [get?_of_ne_nil hplace]
    intro hnone
    exact List.find?_eq_none.mp (Option.map_eq_none_iff.mp hnone) _ h.1 (by simp)

lemma Holds.get?_eq (h : d.Holds place e) (hplace : place ≠ []) : d.get? place = some e := by
  have hsame := get?_put (d := d) (q := place) (e := e) hplace
  rw [h.put_eq] at hsame
  simpa using hsame

/-! ### Places -/

/-- The place that components lead to from the working directory. -/
def placeOf (parts : List String) : List String := parts.foldl step []

/-- The places that components lead to one after another, the working directory first. -/
def waypoints (parts : List String) : List (List String) := parts.inits.map placeOf

lemma placeOf_concat (parts : List String) (part : String) :
    placeOf (parts ++ [part]) = step (placeOf parts) part := by
  simp [placeOf]

lemma waypoints_nil : waypoints [] = [[]] := rfl

lemma waypoints_concat (parts : List String) (part : String) :
    waypoints (parts ++ [part]) = waypoints parts ++ [placeOf (parts ++ [part])] := by
  simp [waypoints, List.inits_append]

/-- There are directories at all places that components lead to. -/
def Leads (d : Disk) (parts : List String) : Prop :=
  ∀ way ∈ waypoints parts, d.get? way = some .directory

/-- There is a file at none of the places that components lead to. -/
def Unblocked (d : Disk) (parts : List String) : Prop :=
  ∀ way ∈ waypoints parts, ∀ content, d.get? way ≠ some (.file content)

lemma leads_nil (d : Disk) : d.Leads [] := by
  simp [Leads, waypoints_nil]

lemma leads_concat_iff {parts : List String} {part : String} :
    d.Leads (parts ++ [part]) ↔
      d.Leads parts ∧ d.get? (placeOf (parts ++ [part])) = some .directory := by
  simp only [Leads, waypoints_concat, List.forall_mem_append, List.forall_mem_singleton]

lemma unblocked_nil (d : Disk) : d.Unblocked [] := by
  simp [Unblocked, waypoints_nil]

lemma unblocked_concat_iff {parts : List String} {part : String} :
    d.Unblocked (parts ++ [part]) ↔
      d.Unblocked parts ∧ ∀ content, d.get? (placeOf (parts ++ [part])) ≠ some (.file content) := by
  simp only [Unblocked, waypoints_concat, List.forall_mem_append, List.forall_mem_singleton]

lemma Leads.unblocked {parts : List String} (h : d.Leads parts) : d.Unblocked parts := by
  intro way hway content
  simp [h way hway]

/-- All components are short enough to be names. -/
def AreNames (parts : List String) : Prop :=
  ∀ part ∈ parts, part.utf8ByteSize ≤ maxComponent

lemma resolve_append (d : Disk) (start parts parts' : List String) :
    d.resolve start (parts ++ parts') =
      d.resolve start parts >>= fun place => d.resolve place parts' := by
  induction parts generalizing start with
  | nil => rfl
  | cons part rest ih =>
    rw [List.cons_append, resolve, resolve]
    split
    · split
      · rfl
      · exact ih _
    · rfl
    · rfl

lemma resolve_singleton_of_directory {part : String} (h : d.get? place = some .directory)
    (hpart : part.utf8ByteSize ≤ maxComponent) :
    d.resolve place [part] = .ok (step place part) := by
  rw [resolve, h]
  simp [Nat.not_lt.mpr hpart, resolve]

/-- Components are followed exactly if there are directories before the last one. -/
lemma resolve_concat_eq_ok_iff {parts : List String} {part : String} :
    d.resolve [] (parts ++ [part]) = .ok place ↔
      d.Leads parts ∧ AreNames (parts ++ [part]) ∧ place = placeOf (parts ++ [part]) := by
  induction parts using List.reverseRecOn generalizing part place with
  | nil =>
    simp only [List.nil_append, resolve, get?_nil, leads_nil, true_and, AreNames,
      List.forall_mem_singleton, placeOf, List.foldl_cons, List.foldl_nil]
    split
    · rename_i hlong
      simp [Nat.not_le.mpr hlong]
    · rename_i hshort
      simp [Nat.not_lt.mp hshort, eq_comm]
  | append_singleton parts x ih =>
    have hnames : AreNames (parts ++ [x] ++ [part]) ↔
        AreNames (parts ++ [x]) ∧ part.utf8ByteSize ≤ maxComponent := by
      simp only [AreNames, List.forall_mem_append, List.forall_mem_singleton]
    rw [resolve_append, leads_concat_iff, hnames, placeOf_concat (parts ++ [x])]
    constructor
    · intro h
      obtain ⟨p, hp, h⟩ := bind_eq_ok h
      obtain ⟨hlead, hshort, rfl⟩ := ih.mp hp
      rw [resolve] at h
      split at h
      · rename_i hdirectory
        split at h
        · cases h
        · rename_i hpart
          cases h
          exact ⟨⟨hlead, hdirectory⟩, ⟨hshort, Nat.not_lt.mp hpart⟩, rfl⟩
      · cases h
      · cases h
    · rintro ⟨⟨hlead, hdirectory⟩, ⟨hshort, hpart⟩, rfl⟩
      rw [ih.mpr ⟨hlead, hshort, rfl⟩]
      exact resolve_singleton_of_directory hdirectory hpart

/-- If no file is on the way and a directory is missing, then components lead nowhere. -/
lemma resolve_concat_of_not_leads {parts : List String} {part : String}
    (hfree : d.Unblocked parts) (hnames : AreNames parts) (h : ¬ d.Leads parts) :
    d.resolve [] (parts ++ [part]) = .error .notFound := by
  induction parts using List.reverseRecOn generalizing part with
  | nil => exact absurd (leads_nil d) h
  | append_singleton parts x ih =>
    obtain ⟨hfree, hlast⟩ := unblocked_concat_iff.mp hfree
    rw [resolve_append]
    by_cases hlead : d.Leads parts
    · -- the last of the directories is missing
      have hnone : d.get? (placeOf (parts ++ [x])) = none := by
        cases hget : d.get? (placeOf (parts ++ [x])) with
        | none => rfl
        | some e =>
          cases e with
          | directory => exact absurd (leads_concat_iff.mpr ⟨hlead, hget⟩) h
          | file content => exact absurd hget (hlast content)
      rw [resolve_concat_eq_ok_iff.mpr ⟨hlead, hnames, rfl⟩]
      change d.resolve _ [part] = _
      rw [resolve, hnone]
    · have hnames' : AreNames parts := fun y hy => hnames y (by simp [hy])
      rw [ih hfree hnames' hlead]
      rfl

end Disk

/-! ### Paths -/

namespace Path

/-- The place that a path leads to. -/
def place (p : Path) : List String := Disk.placeOf p.parts

/-- The places of the directories on the way to a file. -/
def directories (p : Path) : List (List String) := Disk.waypoints p.parent.parts

/-- A disk can be asked for a path: all characters of its components have an encoding, none of them
is the one that ends paths, and neither the components nor the whole are too long. -/
structure Fits (p : Path) : Prop where
  encodable : ∀ part ∈ p.parts, ∀ c ∈ part.toList, Text.isPathChar c = true
  noNul : ∀ part ∈ p.parts, Char.ofNat 0 ∉ part.toList
  names : Disk.AreNames p.parts
  short : p.text.utf8ByteSize ≤ Disk.maxPath

lemma fits_iff {p : Path} :
    p.Fits ↔ p.parts.any (fun part => part.toList.any (fun c => !Text.isPathChar c)) = false ∧
      p.parts.any (fun part => part.toList.contains (Char.ofNat 0)) = false ∧
      ¬ Disk.maxPath < p.text.utf8ByteSize ∧ Disk.AreNames p.parts := by
  rw [Nat.not_lt]
  constructor
  · rintro ⟨hencodable, hnul, hnames, hshort⟩
    exact ⟨by simpa using hencodable, by simpa using hnul, hshort, hnames⟩
  · rintro ⟨hencodable, hnul, hshort, hnames⟩
    exact ⟨by simpa using hencodable, by simpa using hnul, hnames, hshort⟩

lemma utf8ByteSize_text_le (anchor : Nat) (parts : List String) (part : String) :
    (Path.mk anchor parts).text.utf8ByteSize ≤
      max 1 (Path.mk anchor (parts ++ [part])).text.utf8ByteSize := by
  cases parts with
  | nil =>
    by_cases hanchor : anchor = 0
    · have hpoint : (Path.mk anchor []).text = "." := by simp [text, hanchor]
      rw [hpoint]
      exact le_max_left _ _
    · simp only [text, hanchor, decide_false, Bool.false_and, Bool.false_eq_true, if_false,
        String.utf8ByteSize_append, String.intercalate_nil, String.utf8ByteSize_empty]
      omega
  | cons first rest =>
    have happend := String.intercalate_append_of_ne_nil (s := "/") (l := first :: rest)
      (m := [part]) (by simp) (by simp)
    rw [List.cons_append] at happend
    simp only [text, happend, List.isEmpty_cons, List.cons_append, Bool.and_false,
      Bool.false_eq_true, if_false, String.utf8ByteSize_append]
    omega

/-- What leads to a path that fits does so too. -/
lemma Fits.of_concat {anchor : Nat} {parts : List String} {part : String}
    (h : Fits ⟨anchor, parts ++ [part]⟩) : Fits ⟨anchor, parts⟩ where
  encodable x hx := h.encodable x (by simp [hx])
  noNul x hx := h.noNul x (by simp [hx])
  names x hx := h.names x (by simp [hx])
  short := by
    have hle := utf8ByteSize_text_le anchor parts part
    have hshort := h.short
    have hmax : 1 ≤ Disk.maxPath := by decide
    omega

end Path

namespace Disk

variable {d d' : Disk} {p : Path}

/-- A path is located exactly if it fits and there are directories on the way. -/
lemma locate_concat_eq_ok_iff {anchor : Nat} {parts : List String} {part : String}
    {place : List String} :
    d.locate ⟨anchor, parts ++ [part]⟩ = .ok place ↔
      Path.Fits ⟨anchor, parts ++ [part]⟩ ∧ d.Leads parts ∧ place = placeOf (parts ++ [part]) := by
  rw [Path.fits_iff, locate]
  cases hhalf : (parts ++ [part]).any (fun x => x.toList.any (fun c => !Text.isPathChar c)) with
  | true => simp
  | false =>
    cases hnul : (parts ++ [part]).any (fun x => x.toList.contains (Char.ofNat 0)) with
    | true => simp
    | false =>
      by_cases hlong : maxPath < (Path.mk anchor (parts ++ [part])).text.utf8ByteSize
      · simp [hlong]
      · simp only [Bool.false_eq_true, if_false, hlong, not_false_eq_true, true_and,
          resolve_concat_eq_ok_iff]
        exact and_left_comm

lemma locate_concat_of_not_leads {anchor : Nat} {parts : List String} {part : String}
    (hfits : Path.Fits ⟨anchor, parts ++ [part]⟩) (hfree : d.Unblocked parts)
    (h : ¬ d.Leads parts) : d.locate ⟨anchor, parts ++ [part]⟩ = .error .notFound := by
  obtain ⟨hhalf, hnul, hshort, -⟩ := Path.fits_iff.mp hfits
  rw [locate, hhalf, if_neg Bool.false_ne_true, hnul, if_neg Bool.false_ne_true, if_neg hshort]
  exact resolve_concat_of_not_leads hfree hfits.of_concat.names h

/-! ### Directories -/

/-- There are directories at the places that components lead to, and all else is as before. -/
structure Prepared (d : Disk) (parts : List String) (d' : Disk) : Prop where
  get?_eq : ∀ place, d'.get? place =
    if place ∈ waypoints parts then some .directory else d.get? place
  holds : ∀ place e, d.Holds place e → d'.Holds place e

lemma Prepared.leads {parts : List String} (h : d.Prepared parts d') : d'.Leads parts := by
  intro way hway
  rw [h.get?_eq, if_pos hway]

/-- Where there are directories already, nothing has to be done. -/
lemma Leads.prepared {parts : List String} (h : d.Leads parts) : d.Prepared parts d := by
  refine ⟨fun place => ?_, fun place e he => he⟩
  split
  · rename_i hway
    exact h place hway
  · rfl

lemma Prepared.trans {parts : List String} {part : String} {d₁ : Disk}
    (h₁ : d.Prepared parts d₁) (h₂ : d₁.Prepared (parts ++ [part]) d') :
    d.Prepared (parts ++ [part]) d' := by
  refine ⟨fun place => ?_, fun place e he => h₂.holds place e (h₁.holds place e he)⟩
  rw [h₂.get?_eq, h₁.get?_eq, waypoints_concat]
  by_cases hway : place ∈ waypoints parts <;> simp [hway]

/-- A directory that is there already is kept. -/
lemma makeDirectory_eq_self {anchor : Nat} {parts : List String} {part : String}
    (hfits : Path.Fits ⟨anchor, parts ++ [part]⟩) (h : d.Leads (parts ++ [part])) :
    d.makeDirectory ⟨anchor, parts ++ [part]⟩ = .ok d := by
  obtain ⟨hlead, hdirectory⟩ := leads_concat_iff.mp h
  simp only [makeDirectory, locate_concat_eq_ok_iff.mpr ⟨hfits, hlead, rfl⟩, bind, Except.bind,
    hdirectory]

/-- One directory is made where the way to it leads through directories. -/
lemma makeDirectory_of_leads {anchor : Nat} {parts : List String} {part : String}
    (hfits : Path.Fits ⟨anchor, parts ++ [part]⟩) (hlead : d.Leads parts)
    (hfree : ∀ content, d.get? (placeOf (parts ++ [part])) ≠ some (.file content)) :
    ∃ d', d.makeDirectory ⟨anchor, parts ++ [part]⟩ = .ok d' ∧
      d.Prepared (parts ++ [part]) d' := by
  cases hget : d.get? (placeOf (parts ++ [part])) with
  | some e =>
    cases e with
    | file content => exact absurd hget (hfree content)
    | directory =>
      have h := leads_concat_iff.mpr ⟨hlead, hget⟩
      exact ⟨d, makeDirectory_eq_self hfits h, h.prepared⟩
  | none =>
    refine ⟨d.put (placeOf (parts ++ [part])) .directory, ?_, fun place => ?_, fun place e he => ?_⟩
    · simp only [makeDirectory, locate_concat_eq_ok_iff.mpr ⟨hfits, hlead, rfl⟩, bind, Except.bind,
        hget]
    · have hne : placeOf (parts ++ [part]) ≠ [] := by
        intro hnil
        rw [hnil, get?_nil] at hget
        cases hget
      rw [get?_put hne, waypoints_concat]
      by_cases hplace : place = placeOf (parts ++ [part])
      · simp [hplace]
      · by_cases hway : place ∈ waypoints parts
        · simp [hplace, hway, hlead place hway]
        · simp [hplace, hway]
    · refine he.put_of_ne (fun hplace => he.get?_ne_none ?_)
      rw [hplace, hget]

/-- Directories that are there already are kept. -/
lemma makeDirectories_eq_self {anchor : Nat} {parts : List String}
    (hfits : Path.Fits ⟨anchor, parts⟩) (h : d.Leads parts) :
    d.makeDirectories anchor parts.reverse = .ok d := by
  rcases List.eq_nil_or_concat' parts with rfl | ⟨parts, part, rfl⟩
  · rfl
  · rw [List.reverse_append, List.reverse_singleton, List.singleton_append, makeDirectories,
      List.reverse_cons, List.reverse_reverse, makeDirectory_eq_self hfits h]

/-- All directories of a way that is not blocked are made. -/
lemma makeDirectories_of_unblocked {anchor : Nat} {parts : List String}
    (hfits : Path.Fits ⟨anchor, parts⟩) (hfree : d.Unblocked parts) :
    ∃ d', d.makeDirectories anchor parts.reverse = .ok d' ∧ d.Prepared parts d' := by
  induction parts using List.reverseRecOn with
  | nil => exact ⟨d, rfl, (leads_nil d).prepared⟩
  | append_singleton parts part ih =>
    obtain ⟨hparts, hlast⟩ := unblocked_concat_iff.mp hfree
    rw [List.reverse_append, List.reverse_singleton, List.singleton_append, makeDirectories,
      List.reverse_cons, List.reverse_reverse]
    by_cases hlead : d.Leads parts
    · obtain ⟨d', hd', hprepared⟩ := makeDirectory_of_leads hfits hlead hlast
      refine ⟨d', ?_, hprepared⟩
      rw [hd']
    · -- a directory above is missing, so those above are made first
      have hmissing : d.makeDirectory ⟨anchor, parts ++ [part]⟩ = .error .notFound := by
        rw [makeDirectory, locate_concat_of_not_leads hfits hparts hlead]
        rfl
      obtain ⟨d₁, hd₁, hprepared₁⟩ := ih hfits.of_concat hparts
      have hlast₁ : ∀ content, d₁.get? (placeOf (parts ++ [part])) ≠ some (.file content) := by
        intro content
        rw [hprepared₁.get?_eq]
        split
        · simp
        · exact hlast content
      obtain ⟨d', hd', hprepared⟩ := makeDirectory_of_leads hfits hprepared₁.leads hlast₁
      refine ⟨d', ?_, hprepared₁.trans hprepared⟩
      rw [hmissing, hd₁]
      exact hd'

end Disk

end DataContract
