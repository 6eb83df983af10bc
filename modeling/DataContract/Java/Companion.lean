/-
The class beside a contract that is written by hand and has its static members.
-/
import DataContract.Value.Text

namespace DataContract.Java

/-- How the companions of contracts are named. -/
structure Companion where
  suffix : String := "Statics"

namespace Companion

/-- The name of the companion of a type. -/
def className (c : Companion) (type : String) : String :=
  type ++ c.suffix

/-- A member of the companion. -/
def reference (c : Companion) (type member : String) : String :=
  c.className type ++ "." ++ member

/-- A call of a method of the companion. -/
def call (c : Companion) (type method : String) (arguments : List String) : String :=
  c.reference type method ++ "(" ++ commaSeparated arguments ++ ")"

end Companion

end DataContract.Java
