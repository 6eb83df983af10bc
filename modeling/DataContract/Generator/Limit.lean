/-
Generating files within the limits of what a file can hold.

The types before the first one with an obstacle are generated as always; that
one ends the work.
-/
import DataContract.Generator
import DataContract.Java.Limit

namespace DataContract

open DataContract.Java (GeneratedFile)

namespace Run

/-- A run that ends with a crash, unless it crashed before. -/
def endingIn (r : Run) (c : Crash) : Run :=
  { r with outcome := r.outcome.bind (fun _ => .error c) }

end Run

namespace Generator

/-- What keeps the file of a type from being written at all. -/
def obstacle? (g : Generator) (t : ContractType) : Option Crash :=
  g.writer.obstacle? g.config g.config.excludes t

/-- The types before the first one with an obstacle, and that obstacle. -/
def beforeObstacle (g : Generator) : List ContractType → List ContractType × Option Crash
  | [] => ([], none)
  | t :: rest =>
    match g.obstacle? t with
    | some c => ([], some c)
    | none =>
      let (types, obstacle) := g.beforeObstacle rest
      (t :: types, obstacle)

/-- Generate all types that are not left out, up to the first one with an obstacle. -/
def generateWithin (g : Generator) (root : Option Path) (disk : Disk) : Run :=
  match g.beforeObstacle g.contractTypes with
  | (_, none) => g.generate root disk
  | (types, some c) => (g.generateTypes root disk types).endingIn c

/-- Generate the file of the type with a name, without writing it, unless it has an obstacle. -/
def renderWithin (g : Generator) (name : String) :
    Attempt GeneratorError GeneratedFile × List Notice :=
  let candidate := if g.config.excludes name then none else g.model.find? name
  match candidate.bind g.obstacle? with
  | some c => (.error (.crash c), [])
  | none =>
    let (outcome, notices) := g.render name
    (outcome.mapError .reported, notices)

end Generator

end DataContract
