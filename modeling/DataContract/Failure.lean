/-
How work can fail.

A failure that the program expects has a cause of its own with a message for
the user.  Anything else is a crash: it ends the work at once, and the command
line reports only its kind.
-/
import DataContract.Document.Fault

namespace DataContract

/-- What the disk refuses. -/
inductive DiskError where
  /-- There is no such file. -/
  | notFound
  /-- A component before the last one is a file. -/
  | notADirectory
  /-- A file stands where a directory is wanted. -/
  | fileExists
  /-- A directory stands where a file is wanted. -/
  | isADirectory
  /-- A path holds the character that ends paths. -/
  | nulInPath
  /-- A path or one of its components is too long. -/
  | nameTooLong
  /-- A path or the text of a file has no encoding. -/
  | unencodable
  deriving DecidableEq

/-- The failures that nothing handles. -/
inductive Crash where
  /-- The bytes of a file are no text. -/
  | undecodable
  /-- A text that is printed has no encoding. -/
  | unprintable
  /-- A text holds no document for a reason other than its form. -/
  | document (fault : Fault)
  /-- The disk refuses a file that was to be written. -/
  | disk (error : DiskError)
  /-- A setting that lists things is no collection. -/
  | notACollection
  /-- A member of a set is a collection itself. -/
  | notAKey
  /-- The settings are no mapping. -/
  | notAMapping
  /-- A part of a text is no text. -/
  | notAText
  /-- What is to be read as a text is none. -/
  | notReadable
  /-- A number stands for a name. -/
  | notAName
  /-- An item of a list is no mapping. -/
  | notAnObject
  /-- An entry that is needed is missing. -/
  | missingEntry
  /-- A word is none of those allowed. -/
  | unknownWord
  /-- A closing mark in a message has no opening one. -/
  | unmatchedMark
  /-- The parameters of an action in a message are no literal. -/
  | malformedAction
  /-- A colour in a message leaves out a part. -/
  | malformedColor
  deriving DecidableEq

/-- What a refusal of the disk means. -/
def DiskError.description : DiskError → String
  | .notFound => "no such file or directory"
  | .notADirectory => "not a directory"
  | .fileExists => "file exists"
  | .isADirectory => "is a directory"
  | .nulInPath => "a path holds a null character"
  | .nameTooLong => "file name too long"
  | .unencodable => "a path or a text cannot be encoded"

/-- What a crash means. -/
def Crash.description : Crash → String
  | .undecodable => "the file is not UTF-8 text"
  | .unprintable => "a text cannot be printed"
  | .document .malformed => "the text holds no document"
  | .document .tooManyDigits => "a number has too many digits"
  | .document .notANumber => "a scalar tagged as a number is none"
  | .document .emptyNumber => "a scalar tagged as a number is empty"
  | .document .notATruthValue => "a scalar tagged as a truth value is none"
  | .document .notADate => "a scalar tagged as a date is none"
  | .document .impossibleDate => "the calendar has no such date"
  | .document .codePointRange => "an escape is beyond the last code point"
  | .document .codePointWidth => "an escape needs too many bits"
  | .document .numberRange => "a number is too large"
  | .document .notAScalar => "a date is written as a collection"
  | .document .recursive => "a collection contains itself"
  | .document .tooDeep => "collections lie in each other too deep"
  | .disk error => error.description
  | .notACollection => "a setting that lists things is no collection"
  | .notAKey => "a member of a set is a collection"
  | .notAMapping => "a mapping is wanted"
  | .notAText => "a text is wanted"
  | .notReadable => "what is read as a text is none"
  | .notAName => "a number stands for a name"
  | .notAnObject => "an item of a list is no mapping"
  | .missingEntry => "a needed entry is missing"
  | .unknownWord => "a word is none of those allowed"
  | .unmatchedMark => "a closing mark has no opening one"
  | .malformedAction => "the parameters of an action are no literal"
  | .malformedColor => "a colour leaves out a part"

/-- A failure of work that can fail for the causes `ε`. -/
inductive Failure (ε : Type) where
  | reported (cause : ε)
  | crash (crash : Crash)

/-- Work that can fail for the causes `ε`. -/
abbrev Attempt (ε α : Type) := Except (Failure ε) α

end DataContract
