/-
The components of paths.

A name that is put after a directory and a slash is the last component of the
path, and what stands before it depends on the directory alone.
-/
import DataContract.Path
import DataContract.Proofs.Text.Occurrence

namespace DataContract.Path

/-- What does not start with a slash has no part in the anchor. -/
lemma anchorOf_append {s t : String} (h : '/' ∉ t.toList) : anchorOf (s ++ t) = anchorOf s := by
  have hwhile : t.toList.takeWhile (· == '/') = [] := by
    cases ht : t.toList with
    | nil => rfl
    | cons c rest =>
      have hc : c ≠ '/' := by
        rintro rfl
        exact h (by simp [ht])
      simp [hc]
  have hboth : (s ++ t).toList.takeWhile (· == '/') = s.toList.takeWhile (· == '/') := by
    rw [String.toList_append, List.takeWhile_append, hwhile, List.append_nil]
    split
    · rename_i hall
      exact ((List.takeWhile_prefix _).eq_of_length hall).symm
    · rfl
  rw [anchorOf, anchorOf, hboth]

/-- The components of a name in a directory are those of the directory and the name. -/
lemma parse_append_slash {directory name : String} (hslash : '/' ∉ name.toList)
    (hempty : name ≠ "") (hpoint : name ≠ ".") :
    parse (directory ++ "/" ++ name) =
      ⟨anchorOf (directory ++ "/"), (parse directory).parts ++ [name]⟩ := by
  have hpieces : splitSlashes (directory ++ "/" ++ name) = splitSlashes directory ++ [name] := by
    have hlist : (directory ++ "/" ++ name).toList = directory.toList ++ '/' :: name.toList := by
      simp
    rw [splitSlashes, hlist, Text.pieces_append_cons, Text.pieces_of_notMem hslash, splitSlashes]
    simp
  rw [parse, parse, anchorOf_append hslash, hpieces]
  simp [hempty, hpoint]

end DataContract.Path
