/-
The files and directories below the working directory.

A path is followed component by component: every component but the last one
must lead to a directory, and `..` leads to the directory above.
-/
import DataContract.Failure
import DataContract.Path
import DataContract.Text.CodePoint

namespace DataContract

/-- What stands under a path. -/
inductive DiskEntry where
  | directory
  | file (content : ByteArray)

/-- The entries below the working directory, by the components that lead to them. -/
structure Disk where
  entries : List (List String × DiskEntry)

namespace Disk

/-- A working directory without anything in it. -/
def empty : Disk := ⟨[]⟩

/-- The entry at a place; the working directory itself is a directory. -/
def get? (d : Disk) (place : List String) : Option DiskEntry :=
  if place.isEmpty then some .directory
  else (d.entries.find? (fun e => e.1 == place)).map (·.2)

/-- Set the entry at a place. -/
def put (d : Disk) (place : List String) (entry : DiskEntry) : Disk :=
  if d.entries.any (fun e => e.1 == place) then
    ⟨d.entries.map (fun e => if e.1 == place then (place, entry) else e)⟩
  else ⟨d.entries ++ [(place, entry)]⟩

/-- The place of a component in the directory at a place. -/
def step (place : List String) (part : String) : List String :=
  if part == ".." then place.dropLast else place ++ [part]

/-- The most bytes of a component of a path. -/
def maxComponent : Nat := 255

/-- The most bytes of a path. -/
def maxPath : Nat := 4095

/-- The place that components lead to, each one from a directory. -/
def resolve (d : Disk) (place : List String) : List String → Except DiskError (List String)
  | [] => .ok place
  | part :: rest =>
    match d.get? place with
    | some .directory =>
      if maxComponent < part.utf8ByteSize then .error .nameTooLong
      else resolve d (step place part) rest
    | some (.file _) => .error .notADirectory
    | none => .error .notFound

/-- The place of a path. -/
def locate (d : Disk) (p : Path) : Except DiskError (List String) :=
  if p.parts.any (fun part => part.toList.any (fun c => !Text.isPathChar c)) then
    .error .unencodable
  else if p.parts.any (fun part => part.toList.contains (Char.ofNat 0)) then .error .nulInPath
  else if maxPath < p.text.utf8ByteSize then .error .nameTooLong
  else d.resolve [] p.parts

/-- The content of a file. -/
def read (d : Disk) (p : Path) : Except DiskError ByteArray := do
  match d.get? (← d.locate p) with
  | some (.file content) => .ok content
  | some .directory => .error .isADirectory
  | none => .error .notFound

/-- Whether there is a file or a directory. -/
def has (d : Disk) (p : Path) : Bool :=
  match d.locate p with
  | .ok place => (d.get? place).isSome
  | .error _ => false

/-- Create one directory in a directory that exists; one that exists already is kept. -/
def makeDirectory (d : Disk) (p : Path) : Except DiskError Disk := do
  let place ← d.locate p
  match d.get? place with
  | some .directory => .ok d
  | some (.file _) => .error .fileExists
  | none => .ok (d.put place .directory)

/-- Create a directory, given by its components from the last to the first, and what leads to it. -/
def makeDirectories (d : Disk) (anchor : Nat) : List String → Except DiskError Disk
  | [] => .ok d
  | part :: above =>
    let p : Path := ⟨anchor, (part :: above).reverse⟩
    match d.makeDirectory p with
    | .error .notFound => do (← makeDirectories d anchor above).makeDirectory p
    | result => result

/-- Write a file and create the directories that lead to it. -/
def write (d : Disk) (p : Path) (content : ByteArray) : Except DiskError Disk := do
  let d ← d.makeDirectories p.anchor p.parent.parts.reverse
  let place ← d.locate p
  match d.get? place with
  | some .directory => .error .isADirectory
  | _ => .ok (d.put place (.file content))

/--
Write a text into a file.  The file is there, and empty, before the text is
encoded; so it stays if the text has no encoding.
-/
def writeText (d : Disk) (p : Path) (s : String) : Disk × Except DiskError Unit :=
  match d.write p (if Text.isEncodable s then s.toUTF8 else .empty) with
  | .ok d' => (d', if Text.isEncodable s then .ok () else .error .unencodable)
  | .error e => (d, .error e)

end Disk

end DataContract
