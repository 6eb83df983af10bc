/-
Names of Java fields, methods and parameters.
-/
import DataContract.Text.Lowercase

namespace DataContract.Java

/-- The name with its first character in lower case; capitals after it stay. -/
def identifier (name : String) : String :=
  match name.toList with
  | [] => ""
  | c :: rest => String.ofList (Text.lower c ++ rest)

end DataContract.Java
