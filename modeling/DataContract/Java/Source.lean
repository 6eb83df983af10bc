/-
The declarations of a Java source, and their text.

Every member of a type starts with a line break, which ends the line before it
or leaves an empty line.  A type without members is closed on the line that
opens it.
-/
import DataContract.Java.Companion
import DataContract.Java.Javadoc

namespace DataContract.Java

/-! ### Declarations -/

/-- A parameter of a constructor or a method. -/
structure FormalParameter where
  name : String
  type : String
  deriving DecidableEq

/-- A field of a class. -/
structure Field where
  documentation : Option String
  isPublic : Bool
  isStatic : Bool
  type : String
  name : String
  value : Option String

/-- A constant of a class. -/
structure ConstantField where
  documentation : Option String
  isPublic : Bool
  type : String
  name : String
  literal : String

/-- A constructor that assigns its parameters to the fields of the same names. -/
structure AssigningConstructor where
  documentation : Option String
  className : String
  parameters : List FormalParameter

/-- A static method that calls another one. -/
structure ForwardingMethod where
  documentation : Option String
  returnType : String
  name : String
  parameters : List FormalParameter
  call : String

/-- A member of a class. -/
inductive ClassMember where
  | constructor (c : AssigningConstructor)
  | field (f : Field)
  | constant (c : ConstantField)
  | method (m : ForwardingMethod)

/-- A constant of an enumeration. -/
structure EnumConstant where
  documentation : Option String
  /-- The name in JSON, which is that in the contract. -/
  serializedName : String
  name : String

/-- What opens a type. -/
structure TypeHead where
  documentation : Option String
  /-- The words before the name. -/
  keywords : String
  name : String
  base : Option String

/-- A type. -/
inductive TypeDeclaration where
  | enumeration (head : TypeHead) (constants : List EnumConstant)
  | classType (head : TypeHead) (members : List ClassMember) (nested : List TypeDeclaration)

namespace TypeDeclaration

mutual

/-- How many types lie in each other, this one included. -/
def depth : TypeDeclaration → Nat
  | .enumeration _ _ => 1
  | .classType _ _ nested => depthOfAll nested + 1

/-- How many types of a list lie in each other at most. -/
def depthOfAll : List TypeDeclaration → Nat
  | [] => 0
  | t :: rest => max (depth t) (depthOfAll rest)

end

end TypeDeclaration

/-! ### Text -/

/-- One step of indentation. -/
def indentUnit : String := "    "

/-- The opening brace. -/
def openBrace : String := "\x7b"

/-- The closing brace. -/
def closeBrace : String := "\x7d"

/-- A line. -/
def line (indent s : String) : String :=
  indent ++ s ++ "\n"

/-- The keyword of a member that everyone may use. -/
def access (isPublic : Bool) : String :=
  if isPublic then "public " else ""

/-- The parameters between the parentheses. -/
def signature (parameters : List FormalParameter) : String :=
  commaSeparated (parameters.map (fun p => p.type ++ " " ++ p.name))

/-- A string literal. -/
def stringLiteral (s : String) : String :=
  "\"" ++ String.ofList
    (Text.replaceAll ['"'] ['\\', '"'] (Text.replaceAll ['\\'] ['\\', '\\'] s.toList)) ++ "\""

namespace ClassMember

/-- The documentation of a member. -/
def documentation : ClassMember → Option String
  | .constructor c => c.documentation
  | .field f => f.documentation
  | .constant c => c.documentation
  | .method m => m.documentation

/-- The lines of a member without its documentation. -/
def body (indent : String) : ClassMember → String
  | .constructor c =>
    line indent (c.className ++ "(" ++ signature c.parameters ++ ") " ++ openBrace)
      ++ String.join (c.parameters.map (fun p =>
        line (indent ++ indentUnit) ("this." ++ p.name ++ " = " ++ p.name ++ ";")))
      ++ line indent closeBrace
  | .field f =>
    (if f.isStatic then "" else line indent "@Expose")
      ++ line indent (access f.isPublic ++ (if f.isStatic then "static " else "")
        ++ f.type ++ " " ++ f.name
        ++ (match f.value with
          | some value => " = " ++ value ++ ";"
          | none => ";"))
  | .constant c =>
    line indent (access c.isPublic ++ "static final " ++ c.type ++ " " ++ c.name ++ " = "
      ++ stringLiteral c.literal ++ ";")
  | .method m =>
    line indent ("public static " ++ m.returnType ++ " " ++ m.name
        ++ "(" ++ signature m.parameters ++ ") " ++ openBrace)
      ++ line (indent ++ indentUnit)
        ((if m.returnType == "void" then "" else "return ") ++ m.call ++ ";")
      ++ line indent closeBrace

/-- The text of a member. -/
def text (docs : Javadoc) (indent : String) (m : ClassMember) : String :=
  "\n" ++ docs.block indent m.documentation ++ m.body indent

end ClassMember

/-- The text of a constant of an enumeration. -/
def EnumConstant.text (docs : Javadoc) (indent : String) (c : EnumConstant) : String :=
  "\n" ++ docs.block indent c.documentation
    ++ line indent ("@SerializedName(\"" ++ c.serializedName ++ "\")")
    ++ line indent (c.name ++ ",")

/-- The text that opens a type, up to its brace. -/
def TypeHead.text (docs : Javadoc) (indent : String) (h : TypeHead) : String :=
  docs.block indent h.documentation ++ indent ++ h.keywords ++ " " ++ h.name
    ++ (match h.base with
      | some base => " extends " ++ base
      | none => "")
    ++ " " ++ openBrace

/-- The text that closes a type with the given members. -/
def closing (indent : String) (isEmpty : Bool) : String :=
  line (if isEmpty then "" else indent) closeBrace

namespace TypeDeclaration

mutual

/-- The text of a type. -/
def text (docs : Javadoc) (indent : String) : TypeDeclaration → String
  | .enumeration head constants =>
    head.text docs indent
      ++ String.join (constants.map (EnumConstant.text docs (indent ++ indentUnit)))
      ++ closing indent constants.isEmpty
  | .classType head members nested =>
    head.text docs indent
      ++ String.join (members.map (ClassMember.text docs (indent ++ indentUnit)))
      ++ nestedText docs (indent ++ indentUnit) nested
      ++ closing indent (members.isEmpty && nested.isEmpty)

/-- The text of the types nested in a class. -/
def nestedText (docs : Javadoc) (indent : String) : List TypeDeclaration → String
  | [] => ""
  | t :: rest => "\n" ++ text docs indent t ++ nestedText docs indent rest

end

end TypeDeclaration

end DataContract.Java
