/-
What no file can hold.

A line of the license has to have a text, and types lie in each other only up to
a depth.  A type that needs more than that ends the work.
-/
import DataContract.Java.Writer

namespace DataContract.Java

/-- How many types may lie in each other in one file. -/
def maxTypeDepth : Nat := 329

namespace Writer

/-- Whether all lines of the license can be written. -/
def hasLicenseText (config : Config) : Bool :=
  config.licenseHeader.all Value.hasText

/-- Whether types lie too deep in a declaration. -/
def isTooDeep (t : TypeDeclaration) : Bool :=
  decide (maxTypeDepth < t.depth)

/-- What keeps the file of a type from being written at all. -/
def obstacle? (w : Writer) (config : Config) (excluded : String → Bool) (t : ContractType) :
    Option Crash :=
  if !hasLicenseText config then some (.document .tooManyDigits)
  else if isRooted (sourceOf t.decl) then none
  else
    match (w.toDialect.type excluded false t).outcome with
    | .ok type => if isTooDeep type then some (.document .tooDeep) else none
    | .error _ => none

/-- Generate the file of a type, unless something keeps it from being written at all. -/
def emitWithin (w : Writer) (config : Config) (excluded : String → Bool) (t : ContractType) :
    Emission (Failure EmitError) :=
  match w.obstacle? config excluded t with
  | some c => ⟨.error (.crash c), []⟩
  | none =>
    let emission := w.emit config excluded t
    ⟨emission.outcome.mapError .reported, emission.notices⟩

end Writer

end DataContract.Java
