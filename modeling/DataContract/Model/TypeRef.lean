/-
References to types.

A reference is written as the name of a type with two marks after it: `[]` for
an array and `?` for a value that may be absent.  Whether the elements of an
array may be absent is not recorded, so a `?` before the `[]` is dropped.
-/
import DataContract.Text.Blank
import DataContract.Text.Occurrence

namespace DataContract

open DataContract.Text

/-- A reference to a type. -/
structure TypeRef where
  /-- The name of the type, or of the elements of the array. -/
  base : String
  /-- Whether the value may be absent. -/
  isNullable : Bool
  /-- Whether the value is an array. -/
  isArray : Bool
  deriving DecidableEq

namespace TypeRef

/-- The mark of a value that may be absent. -/
def nullMark : List Char := ['?']

/-- The mark of an array. -/
def arrayMark : List Char := ['[', ']']

/-- The reference with a name and, for an array, a mark of its elements. -/
def ofUnmarked (isNullable : Bool) (s : List Char) : TypeRef :=
  match dropSuffix? arrayMark s with
  | some elements => ⟨String.ofList (dropSuffix nullMark elements), isNullable, true⟩
  | none => ⟨String.ofList s, isNullable, false⟩

/-- Read a reference; blanks around it are skipped. -/
def parse (written : String) : TypeRef :=
  let s := trim written.toList
  match dropSuffix? nullMark s with
  | some rest => ofUnmarked true rest
  | none => ofUnmarked false s

/-- The written form of a reference. -/
def display (r : TypeRef) : String :=
  r.base ++ String.ofList
    ((if r.isArray then arrayMark else []) ++ (if r.isNullable then nullMark else []))

end TypeRef

end DataContract
