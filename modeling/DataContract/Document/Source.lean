/-
Documents in files.

A file is UTF-8 text in which every line break counts as a line feed.  Its name
decides the format: JSON for the suffix `.json`, and YAML for all others.
-/
import DataContract.Config
import DataContract.Disk
import DataContract.Document.Outline
import DataContract.Json.Reader
import DataContract.Model.Limit
import DataContract.Notice
import DataContract.Value.Text
import DataContract.Yaml.Stream

namespace DataContract

/-- The text with a line feed for every line break. -/
def unifyLineBreaks : List Char → List Char
  | [] => []
  | '\r' :: '\n' :: rest => '\n' :: unifyLineBreaks rest
  | '\r' :: rest => '\n' :: unifyLineBreaks rest
  | c :: rest => c :: unifyLineBreaks rest

/-- The text of the bytes of a file. -/
def decodeText (content : ByteArray) : Except Crash String :=
  match String.fromUTF8? content with
  | some s => .ok (String.ofList (unifyLineBreaks s.toList))
  | none => .error .undecodable

/-- Work on the text of a document that fails for one cause if the text is malformed. -/
def onMalformed {ε α : Type} (cause : ε) : Except Fault α → Attempt ε α
  | .ok a => .ok a
  | .error .malformed => .error (.reported cause)
  | .error fault => .error (.crash (.document fault))

/-- The content of a file; a path that no disk can be asked for is a crash. -/
def contentOf {ε : Type} (cause : ε) (disk : Disk) (p : Path) : Attempt ε ByteArray :=
  match disk.read p with
  | .ok content => .ok content
  | .error .nulInPath => .error (.crash (.disk .nulInPath))
  | .error .unencodable => .error (.crash (.disk .unencodable))
  | .error _ => .error (.reported cause)

namespace Model

/-- The text of a version that is written as a number. -/
def versionText? (v : Value) : Option (Except Crash Value) :=
  match v with
  | .int _ | .float _ | .noNumber _ =>
    some (if v.hasText then .ok (.str v.text) else .error (.document .tooManyDigits))
  | _ => none

/-- The document in which a version that is written as a number is a text. -/
def versionAsText (d : Linked) : Except Crash Linked :=
  match d.object d.root with
  | .plain (.map entries) =>
    match (Entries.get? entries "ir_version").bind versionText? with
    | none => .ok d
    | some version => do
      return .ofValue (.map (Entries.insert (.str "ir_version") (← version) entries))
  | .map entries =>
    match entries.find? (fun e => e.1.isStr "ir_version") with
    | none => .ok d
    | some (key, id) =>
      match d.object id with
      | .plain v =>
        match versionText? v with
        | none => .ok d
        | some version => do
          let changed := Object.map (putKey key d.objects.size entries)
          return { d with
            objects := (d.objects.setIfInBounds d.root changed).push (.plain (← version)) }
      | _ => .ok d
  | _ => .ok d

/-- A reader of the texts that are not JSON. -/
abbrev TextReader := String → Except Fault Linked

/-- The document of a text in the format that the name of its file tells. -/
def parseDocument (readYaml : TextReader) (p : Path) (text : String) : Except Fault Linked :=
  if p.suffix == ".json" then (Json.parse text).map .ofValue else readYaml text

/-- The document of a model in a file, with a reader of YAML. -/
def readDocumentWith (readYaml : TextReader) (disk : Disk) (path : String) :
    Attempt ModelError Entries := do
  let p := Path.parse path
  let content ← contentOf (.unreadable p.text) disk p
  let text ← (decodeText content).mapError .crash
  let d ← onMalformed (.invalid p.text) (parseDocument readYaml p text)
  let d ← (versionAsText d).mapError .crash
  match (← onMalformed (.invalid p.text) (d.along Schema.document)) with
  | .map entries => return entries
  | _ => .error (.reported (.notAMapping p.text))

/-- The document of a model in a file. -/
def readDocument (disk : Disk) (path : String) : Attempt ModelError Entries :=
  readDocumentWith Yaml.parse disk path

/-- The model in a file, with a reader of YAML and a limit to how deep its document is read. -/
def loadWith (readYaml : TextReader) (limit : Nat) (disk : Disk) (path : String) :
    Attempt ModelError Model := do
  ofEntriesWithin limit (← readDocumentWith readYaml disk path)

/-- How deep the values of a document in a file may lie in each other. -/
def maxNesting : Nat := 988

/-- The model in a file. -/
def load (disk : Disk) (path : String) : Attempt ModelError Model :=
  loadWith Yaml.parse maxNesting disk path

/-- The notice of a model that was read from a file. -/
def loadNotice (m : Model) (path : String) : Notice :=
  ⟨.debug, "Loaded " ++ toString m.typeCount ++ " type(s) from " ++ path⟩

end Model

namespace Config

/-- The file of the settings, unless another one is named. -/
def defaultFile : String := "contractgen.yaml"

/-- The places of settings that are looked into. -/
def outline : Schema :=
  .record [] [
    ("java", .record [] []),
    ("license_header", .list (.text {})),
    ("excluded_types", .list (.text {}))]

/-- How many bytes are decoded at a time. -/
def blockSize : Nat := 8192

/-- The text of the first bytes, of which a last character may be incomplete. -/
def leadingText? (content : ByteArray) (length : Nat) : Option String :=
  [0, 1, 2, 3].findSome? (fun missing => String.fromUTF8? (content.extract 0 (length - missing)))

/-- The text of as many whole blocks as can be decoded. -/
def soundText (content : ByteArray) : Nat → String
  | 0 => ""
  | blocks + 1 =>
    match leadingText? content ((blocks + 1) * blockSize) with
    | some s => s
    | none => soundText content blocks

/-- Why bytes that are no text hold no settings: a fault before them counts first. -/
def undecodable (content : ByteArray) : Crash :=
  let s := soundText content (content.size / blockSize)
  match Yaml.earlyFault? (unifyLineBreaks s.toList) with
  | some fault => .document fault
  | none => .undecodable

/-- The settings in a file; a document that is empty sets none. -/
def loadFile (disk : Disk) (path : String) : Attempt Error Config := do
  let p := Path.parse path
  let content ← contentOf (.unreadable p.text) disk p
  let text ← (decodeText content).mapError (fun _ => .crash (undecodable content))
  let d ← onMalformed (.unreadable p.text) (Yaml.parseInPieces text)
  match (← onMalformed (.unreadable p.text) (d.along outline)) with
  | .map entries => ofEntries entries
  | v => if v.isPresent then .error (.reported (.notAMapping p.text)) else ofEntries []

/-- The settings in the named file, or in the default one if there is such a file. -/
def load (disk : Disk) : Option String → Attempt Error Config
  | some path => loadFile disk path
  | none => if disk.has (Path.parse defaultFile) then loadFile disk defaultFile else .ok default

end Config

end DataContract
