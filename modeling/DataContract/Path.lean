/-
Paths of files.

A path is a list of components.  Empty components and `.` say nothing and are
dropped; `..` is kept, since what it leads to depends on the disk.
-/
import DataContract.Text.Occurrence

namespace DataContract

/-- Cut a text at every `/`. -/
def splitSlashes (s : String) : List String :=
  (Text.pieces '/' s.toList).map String.ofList

/-- A path: how many slashes anchor it, and its components. -/
structure Path where
  /-- None for a relative path, one or two for an absolute path. -/
  anchor : Nat
  parts : List String
  deriving DecidableEq

namespace Path

/-- The number of slashes at the start; three or more count as one. -/
def anchorOf (s : String) : Nat :=
  match (s.toList.takeWhile (· == '/')).length with
  | 0 => 0
  | 2 => 2
  | _ => 1

/-- Read a path. -/
def parse (s : String) : Path :=
  ⟨anchorOf s, (splitSlashes s).filter (fun part => part != "" && part != ".")⟩

/-- The text of a path. -/
def text (p : Path) : String :=
  if p.anchor = 0 && p.parts.isEmpty then "."
  else "".pushn '/' p.anchor ++ "/".intercalate p.parts

/-- A path below another one, unless it is absolute. -/
def join (base p : Path) : Path :=
  if p.anchor = 0 then ⟨base.anchor, base.parts ++ p.parts⟩ else p

/-- The directory of a path. -/
def parent (p : Path) : Path :=
  ⟨p.anchor, p.parts.dropLast⟩

/--
The suffix of the last component: its part from the last dot, unless that dot
is the first or the last character.
-/
def suffix (p : Path) : String :=
  let name := (p.parts.getLast?.getD "").toList
  let extension := (name.reverse.takeWhile (· != '.')).reverse
  if extension.isEmpty || name.length ≤ extension.length + 1 then ""
  else String.ofList ('.' :: extension)

end Path

/-! ### Paths of sources -/

/--
Whether a path is anchored: it starts with a slash of either kind or with a
drive letter and a colon.
-/
def isRooted (path : String) : Bool :=
  match path.toList with
  | [] => false
  | c :: rest =>
    c == '/' || c == '\\' || (c.isAlpha && rest.head? == some ':')

/--
One component after normal ones: `..` takes the last of them away, unless there
is none or it is `..` too.
-/
def normalStep (acc : List String) (part : String) : List String :=
  if part == "" || part == "." then acc
  else if part == ".." then
    match acc.getLast? with
    | some last => if last == ".." then acc ++ [part] else acc.dropLast
    | none => [part]
  else acc ++ [part]

/-- The components of a relative path in which every `..` stands in front. -/
def normalParts (s : String) : List String :=
  (splitSlashes s).foldl normalStep []

/-- Two lists of components without what they have in common at the start. -/
def dropCommon : List String → List String → List String × List String
  | a :: as, b :: bs => if a == b then dropCommon as bs else (a :: as, b :: bs)
  | as, bs => (as, bs)

/-- What stands before the last slash. -/
def directoryOf (path : String) : String :=
  match (Text.beforeLast? ['/'] path.toList) with
  | some before => String.ofList before
  | none => ""

/-- The path that leads from a directory to a file, both relative to one place. -/
def pathFrom (directory file : String) : String :=
  match dropCommon (normalParts directory) (normalParts file) with
  | (up, down) =>
    match up.map (fun _ => "..") ++ down with
    | [] => "."
    | parts => "/".intercalate parts

end DataContract
