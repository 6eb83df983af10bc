/-
Nodes of YAML text: the graph that the tokens spell.

An alias stands for the node that its anchor names, so a node can have several
places, and a collection can contain itself.  Every anchor is given once.  A
place where a node is expected and none is written holds an empty plain scalar,
which is null.
-/
import DataContract.Yaml.Tag
import DataContract.Yaml.Token

namespace DataContract.Yaml

/-- The number of a node in its graph. -/
abbrev NodeId := Nat

/-- What a node holds. -/
inductive Content where
  | scalar (text : String)
  | sequence (items : List NodeId)
  | mapping (entries : List (NodeId × NodeId))

/-- A node, with its tag. -/
structure Node where
  tag : Tag
  content : Content

namespace Node

/-- The node of a place where nothing is written. -/
def empty : Node := ⟨.null, .scalar ""⟩

instance : Inhabited Node := ⟨empty⟩

end Node

/-- The nodes of a text, each under its number. -/
structure Graph where
  nodes : Array Node

namespace Graph

/-- The node with a number. -/
def get (g : Graph) (id : NodeId) : Node :=
  g.nodes.getD id .empty

/-- The graph with another node under a number. -/
def set (g : Graph) (id : NodeId) (n : Node) : Graph :=
  ⟨g.nodes.setIfInBounds id n⟩

/-- The graph with one more node, whose number is the size before. -/
def push (g : Graph) (n : Node) : Graph :=
  ⟨g.nodes.push n⟩

/-- How many nodes there are. -/
def size (g : Graph) : Nat := g.nodes.size

end Graph

/-! ### The graph of the tokens -/

/-- Collections lie in each other no deeper than this. -/
def maxDepth : Nat := 490

/-- The state of the graph reader. -/
structure Parser where
  scanner : Scanner
  graph : Graph
  /-- The nodes that have been given a name. -/
  anchors : List (String × NodeId)
  /-- What the handles of tags stand for. -/
  handles : List (String × String)
  /-- How many nodes the place lies in. -/
  depth : Nat

/-- A step of the graph reader. -/
abbrev Parse (α : Type) := StateT Parser (Except Fault) α

/-- What a node is written with before its content. -/
structure Properties where
  anchor : Option String
  /-- The name of the tag; `!` asks for the tag of a plain scalar. -/
  tag : Option String

namespace Parse

/-- The text breaks the rules of the format. -/
def fail {α : Type} : Parse α := throw .malformed

/-- The next token. -/
def peek : Parse (Option Token) := do
  let scanner ← (← get).scanner.ready
  modify (fun p => { p with scanner })
  return scanner.queue.head?

/-- Go on after the next token. -/
def advance : Parse Unit :=
  modify (fun p => { p with scanner := p.scanner.drop })

/-- Go on after the next token if it passes `p`, and say whether it did. -/
def accept (p : Token → Bool) : Parse Bool := do
  match (← peek) with
  | some t => if p t then advance; return true else return false
  | none => return false

/-- Whether the next token passes `p`. -/
def sees (p : Token → Bool) : Parse Bool := do
  return (← peek).any p

/-- Go on after the next token, which has to pass `p`. -/
def expect (p : Token → Bool) : Parse Unit := do
  if (← accept p) then return () else fail

/-- One more node. -/
def add (tag : Tag) (content : Content) : Parse NodeId := do
  let id := (← get).graph.size
  modify (fun p => { p with graph := p.graph.push ⟨tag, content⟩ })
  return id

/-- The node of a place where nothing is written. -/
def addEmpty : Parse NodeId :=
  add .null (.scalar "")

/-- One more node, whose content is read after the node is known. -/
def addFilled (tag : Tag) (read : Parse Content) (name : NodeId → Parse Unit) : Parse NodeId := do
  let id ← add tag (.scalar "")
  name id
  let content ← read
  modify (fun p => { p with graph := p.graph.set id ⟨tag, content⟩ })
  return id

/-- Read a part that lies one level deeper. -/
def deeper {α : Type} (read : Parse α) : Parse α := do
  let depth := (← get).depth
  if maxDepth ≤ depth then throw .tooDeep
  else
    modify (fun p => { p with depth := depth + 1 })
    let a ← read
    modify (fun p => { p with depth })
    return a

/-- The full name of a tag. -/
def tagName (handle : Option String) (suffix : String) : Parse String := do
  match handle with
  | none => return suffix
  | some h =>
    match (← get).handles.lookup h with
    | some start => return start ++ suffix
    | none => fail

/-- An anchor, if one comes next. -/
def anchorName? : Parse (Option String) := do
  match (← peek) with
  | some (.anchor name) =>
    advance
    return some name
  | _ => return none

/-- A tag as it is written, if one comes next. -/
def tagToken? : Parse (Option (Option String × String)) := do
  match (← peek) with
  | some (.tag handle suffix) =>
    advance
    return some (handle, suffix)
  | _ => return none

/-- The anchor and the tag before a node, in either order. -/
def properties : Parse Properties := do
  let before ← anchorName?
  let tag ← tagToken?
  let after ← if before.isNone && tag.isSome then anchorName? else pure none
  return ⟨before <|> after, ← tag.mapM (fun (handle, suffix) => tagName handle suffix)⟩

/-- The tag of a collection. -/
def collectionTag (props : Properties) (default : Tag) : Tag :=
  match props.tag with
  | none => default
  | some "!" => default
  | some name => .ofName name

/-- The tag of a scalar. -/
def scalarTag (props : Properties) (text : String) (plain : Bool) : Tag :=
  match props.tag with
  | none => if plain then plainTag text else .str
  | some "!" => plainTag text
  | some name => .ofName name

/-- The node that an alias stands for. -/
def aliased (name : String) : Parse NodeId := do
  match (← get).anchors.lookup name with
  | some id => return id
  | none => fail

/-- An anchor may not be given twice. -/
def checkAnchor (anchor : Option String) : Parse Unit := do
  let anchors := (← get).anchors
  if anchor.any (fun name => (anchors.lookup name).isSome) then fail else return ()

/-- Give a node its name. -/
def register (anchor : Option String) (id : NodeId) : Parse Unit :=
  match anchor with
  | none => return ()
  | some name => modify (fun p => { p with anchors := (name, id) :: p.anchors })

/-- A scalar node under its name. -/
def scalarNode (props : Properties) (text : String) (plain : Bool) : Parse NodeId := do
  let id ← add (scalarTag props text plain) (.scalar text)
  register props.anchor id
  return id

/-- A sequence node under its name. -/
def sequenceNode (props : Properties) (read : Parse (List NodeId)) : Parse NodeId :=
  addFilled (collectionTag props .seq) (Content.sequence <$> read) (register props.anchor)

/-- A mapping node under its name. -/
def mappingNode (props : Properties) (read : Parse (List (NodeId × NodeId))) : Parse NodeId :=
  addFilled (collectionTag props .map) (Content.mapping <$> read) (register props.anchor)

/-- A node without content, which has to have an anchor or a tag. -/
def emptyContent (props : Properties) : Parse NodeId :=
  if props.anchor.isSome || props.tag.isSome then scalarNode props "" true else fail

/-- Which nodes may be written without brackets at a place. -/
inductive Context where
  /-- Only scalars and flow collections. -/
  | flow
  /-- Block collections too. -/
  | block
  /-- Also a block sequence that is not indented. -/
  | indentless
  deriving DecidableEq

/-- Whether a token marks a key. -/
def isKeyMark : Token → Bool
  | .key => true
  | _ => false

/-- Whether a token marks a value. -/
def isValueMark : Token → Bool
  | .value => true
  | _ => false

/-- Whether a token starts an item of a block sequence. -/
def isBlockEntry : Token → Bool
  | .blockEntry => true
  | _ => false

/-- Whether a token ends a block collection. -/
def isBlockEnd : Token → Bool
  | .blockEnd => true
  | _ => false

/-- Whether a token divides the entries of a flow collection. -/
def isFlowEntry : Token → Bool
  | .flowEntry => true
  | _ => false

/-- Whether a token ends a flow sequence. -/
def isSequenceEnd : Token → Bool
  | .flowSequenceEnd => true
  | _ => false

/-- Whether a token ends a flow mapping. -/
def isMappingEnd : Token → Bool
  | .flowMappingEnd => true
  | _ => false

mutual

/-- A node at a place of the given kind. -/
def node : Nat → Context → Parse NodeId
  | 0, _ => fail
  | fuel + 1, ctx => deeper do
    match (← peek) with
    | some (.alias name) =>
      advance
      aliased name
    | _ =>
      let props ← properties
      let next ← peek
      checkAnchor props.anchor
      content fuel ctx props next

/-- The content of a node after its anchor and tag, which starts with the token `next`. -/
def content : Nat → Context → Properties → Option Token → Parse NodeId
  | 0, _, _, _ => fail
  | fuel + 1, ctx, props, next => do
    match next with
    | some (.scalar text plain) =>
      advance
      scalarNode props text plain
    | some .flowSequenceStart =>
      advance
      sequenceNode props (flowItems fuel true)
    | some .flowMappingStart =>
      advance
      mappingNode props (flowEntries fuel true)
    | some .blockEntry =>
      if ctx = .indentless then sequenceNode props (indentlessItems fuel) else emptyContent props
    | some .blockSequenceStart =>
      if ctx = .flow then emptyContent props
      else
        advance
        sequenceNode props (blockItems fuel)
    | some .blockMappingStart =>
      if ctx = .flow then emptyContent props
      else
        advance
        mappingNode props (blockEntries fuel)
    | _ => emptyContent props

/-- A node, or the empty node in front of one of the given tokens. -/
def nodeBefore : Nat → Context → List (Token → Bool) → Parse NodeId
  | 0, _, _ => fail
  | fuel + 1, ctx, ends => do
    if (← sees (fun t => ends.any (· t))) then addEmpty
    else node fuel ctx

/-- The items of a block sequence. -/
def blockItems : Nat → Parse (List NodeId)
  | 0 => fail
  | fuel + 1 => do
    if (← accept isBlockEntry) then
      let item ← nodeBefore fuel .block [isBlockEntry, isBlockEnd]
      return item :: (← blockItems fuel)
    else
      expect isBlockEnd
      return []

/-- The items of a block sequence that is not indented. -/
def indentlessItems : Nat → Parse (List NodeId)
  | 0 => fail
  | fuel + 1 => do
    if (← accept isBlockEntry) then
      let item ← nodeBefore fuel .block [isBlockEntry, isKeyMark, isValueMark, isBlockEnd]
      return item :: (← indentlessItems fuel)
    else return []

/-- The entries of a block mapping. -/
def blockEntries : Nat → Parse (List (NodeId × NodeId))
  | 0 => fail
  | fuel + 1 => do
    if (← accept isKeyMark) then
      let key ← nodeBefore fuel .indentless [isKeyMark, isValueMark, isBlockEnd]
      let value ← blockValue fuel
      return (key, value) :: (← blockEntries fuel)
    else
      expect isBlockEnd
      return []

/-- The value after a key of a block mapping. -/
def blockValue : Nat → Parse NodeId
  | 0 => fail
  | fuel + 1 => do
    if (← accept isValueMark) then nodeBefore fuel .indentless [isKeyMark, isValueMark, isBlockEnd]
    else addEmpty

/-- The items of a flow sequence; an item may be a single entry of a mapping. -/
def flowItems : Nat → Bool → Parse (List NodeId)
  | 0, _ => fail
  | fuel + 1, first => do
    if (← accept isSequenceEnd) then return []
    else
      if !first then expect isFlowEntry
      if (← accept isKeyMark) then
        let item ← deeper (mappingNode ⟨none, none⟩ (singleEntry fuel))
        return item :: (← flowItems fuel false)
      else if (← accept isSequenceEnd) then return []
      else
        let item ← node fuel .flow
        return item :: (← flowItems fuel false)

/-- The entry of a mapping that is an item of a flow sequence, after its key mark. -/
def singleEntry : Nat → Parse (List (NodeId × NodeId))
  | 0 => fail
  | fuel + 1 => do
    let key ← nodeBefore fuel .flow [isValueMark, isFlowEntry, isSequenceEnd]
    let value ← flowValue fuel [isFlowEntry, isSequenceEnd]
    return [(key, value)]

/-- The value after a key of a flow mapping. -/
def flowValue : Nat → List (Token → Bool) → Parse NodeId
  | 0, _ => fail
  | fuel + 1, ends => do
    if (← accept isValueMark) then nodeBefore fuel .flow ends
    else addEmpty

/-- The entries of a flow mapping. -/
def flowEntries : Nat → Bool → Parse (List (NodeId × NodeId))
  | 0, _ => fail
  | fuel + 1, first => do
    if (← accept isMappingEnd) then return []
    else
      if !first then expect isFlowEntry
      if (← accept isKeyMark) then
        let key ← nodeBefore fuel .flow [isValueMark, isFlowEntry, isMappingEnd]
        let value ← flowValue fuel [isFlowEntry, isMappingEnd]
        return (key, value) :: (← flowEntries fuel false)
      else if (← accept isMappingEnd) then return []
      else
        let key ← node fuel .flow
        let value ← addEmpty
        return (key, value) :: (← flowEntries fuel false)

end

/-! ### Documents -/

/-- The handles that every document knows. -/
def standardHandles : List (String × String) := [("!", "!"), ("!!", Tag.standardStart)]

/-- The handles that directives define: each one once, and the version at most once. -/
def directives : Nat → Bool → List (String × String) → Parse (List (String × String))
  | 0, _, _ => fail
  | fuel + 1, versionSeen, handles => do
    match (← peek) with
    | some (.directive (.version major _)) =>
      advance
      if versionSeen || major ≠ 1 then fail else directives fuel true handles
    | some (.directive (.tagHandle handle start)) =>
      advance
      if (handles.lookup handle).isSome then fail
      else directives fuel versionSeen ((handle, start) :: handles)
    | some (.directive .unknown) =>
      advance
      directives fuel versionSeen handles
    | _ => return handles

/-- The node of an explicit document, after its start mark. -/
def explicitContent (fuel : Nat) : Parse NodeId := do
  match (← peek) with
  | some (.directive _) => addEmpty
  | some .documentStart => addEmpty
  | some .documentEnd => addEmpty
  | some .streamEnd => addEmpty
  | _ => node fuel .block

/-- The node of the first document, if there is one. -/
def firstDocument (fuel : Nat) : Parse (Option NodeId) := do
  match (← peek) with
  | some .streamEnd => return none
  | some (.directive _) | some .documentStart =>
    let handles ← directives fuel false []
    modify (fun p => { p with handles := handles ++ standardHandles })
    match (← peek) with
    | some .documentStart =>
      advance
      return some (← explicitContent fuel)
    | _ => fail
  | _ => return some (← node fuel .block)

/-- Go on after the end marks of a document. -/
def documentEnds : Nat → Parse Unit
  | 0 => fail
  | fuel + 1 => do
    match (← peek) with
    | some .documentEnd =>
      advance
      documentEnds fuel
    | _ => return ()

/-- The node of the only document of a text; a second one is refused where it starts. -/
def onlyDocument (fuel : Nat) : Parse (Option NodeId) := do
  let n ← firstDocument fuel
  documentEnds fuel
  match (← peek) with
  | some .streamEnd => return n
  | _ =>
    let _ ← directives fuel false []
    fail

end Parse

/--
The graph that a text spells and its first node, if it has one.  Every third
step of the reader takes a token, and a character makes at most four tokens.
-/
def Graph.parse (s : List Char) : Except Fault (Graph × Option NodeId) := do
  let parser : Parser :=
    { scanner := .ofText s, graph := ⟨#[]⟩, anchors := [], handles := Parse.standardHandles,
      depth := 0 }
  let (root, parser) ← (Parse.onlyDocument (16 * s.length + 64)).run parser
  return (parser.graph, root)

end DataContract.Yaml
