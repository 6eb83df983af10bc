/-
How deep a document may lie in itself.

Reading a model goes into the document as far as the schema looks into it, and
it goes all the way into the values whose texts it needs: the tags that the
messages of issues quote, and the constants of a document without issues.  It
cannot go deeper than a limit.
-/
import DataContract.Model.Reading
import DataContract.Schema.Nesting

namespace DataContract

/-- The values of the constants among the members of a type. -/
def constantValues (entries : Entries) : List Value :=
  match entries.get? "members" with
  | some (.list members) =>
    members.filterMap (fun m =>
      match m with
      | .map es =>
        if (Entries.get? es Schema.discriminator).any (·.isStr MemberKind.constant.word) then
          Entries.get? es "value"
        else none
      | _ => none)
  | _ => []

namespace TypeObject

mutual

/-- The constants of a type object and of those in it, with how many values each lies in. -/
def constants (outside : Nat) : TypeObject → List (Nat × Value)
  | .mk entries nested =>
    (constantValues entries).map (fun v => (outside + 3, v)) ++ constantsOfAll (outside + 2) nested

/-- The constants of type objects and of those in them, with how many values each lies in. -/
def constantsOfAll (outside : Nat) : List TypeObject → List (Nat × Value)
  | [] => []
  | t :: rest => constants outside t ++ constantsOfAll outside rest

end

end TypeObject

namespace Model

/-- Whether a document is of a version that is read. -/
def isSupported (entries : Entries) : Bool :=
  match entries.get? "ir_version" with
  | some (.str version) => majorVersion version == majorVersion supportedVersion
  | _ => false

/-- The tag that the message of a problem quotes. -/
def quotedTag? : Problem → Option Value
  | .unknownVariant tag _ => some tag
  | _ => none

/-- The values whose texts are needed to read a document, with how many values each lies in. -/
def quotations (entries : Entries) : List (Nat × Value) :=
  match documentIssues (.map entries) with
  | [] => if isSupported entries then TypeObject.constantsOfAll 2 (typeObjects entries) else []
  | issues =>
    issues.filterMap (fun i => (quotedTag? i.problem).map (fun tag => (i.location.length, tag)))

/-- Whether reading a document goes deeper than a limit. -/
def isTooDeep (limit : Nat) (entries : Entries) : Bool :=
  decide (limit < Schema.nesting .document (.map entries))
    || (quotations entries).any (fun (outside, v) => decide (limit < outside + v.depth))

/-- Read a model from the entries of a document, unless they lie too deep in each other. -/
def ofEntriesWithin (limit : Nat) (entries : Entries) : Attempt ModelError Model :=
  if isTooDeep limit entries then .error (.crash (.document .tooDeep))
  else ofValue (.map entries)

end Model

end DataContract
