import ActorFacade.Yaml.Kind
import ActorFacade.Yaml.Lexing

/-! # Nodes of a document

The tokens of a document describe nodes: scalars, sequences and mappings, each with its kind.  They
are read by recursive descent.  A node has a number, by which the nodes around it refer to it.  An
alias repeats the number of the node that carries its anchor, so that a node can lie within itself.
Every reader takes at most a fixed number of steps for each token.

A defect behind some tokens counts only when these have been read and one more is asked for.  So
tokens are asked for in a fixed order, and as late as possible.
-/

namespace ActorFacade.Yaml

/-- The number of a node. -/
abbrev NodeRef := Nat

/-- The entries of a mapping. -/
abbrev NodePairs := List (NodeRef × NodeRef)

/-- A node with its kind. -/
inductive Node where
  | scalar (k : Kind) (t : Text)
  | sequence (k : Kind) (items : List NodeRef)
  | mapping (k : Kind) (entries : NodePairs)
deriving DecidableEq, Repr, Inhabited

namespace Node

/-- The node that stands where nothing is written. -/
def empty : Node := .scalar .null []

/-- The kind of a node. -/
def kind : Node → Kind
  | .scalar k _ | .sequence k _ | .mapping k _ => k

/-- A node as one of another kind. -/
def withKind (k : Kind) : Node → Node
  | .scalar _ t => .scalar k t
  | .sequence _ items => .sequence k items
  | .mapping _ entries => .mapping k entries

/-- Abbreviations for the beginnings of tags. -/
abbrev Handles := List (Text × Text)

/-- The abbreviations that every document has. -/
def standardHandles : Handles := [("!", "!"), ("!!", Kind.corePrefix)]

/-- Where reading stands. -/
structure Progress where
  /-- The tokens that follow. -/
  tokens : List Token
  /-- What is wrong behind them. -/
  defect : Option Defect := none
  /-- The nodes so far; those that are not complete yet are empty. -/
  nodes : Array Node := #[]
  /-- The numbers of nodes under their anchors. -/
  anchors : List (Text × NodeRef) := []

/-- A part of reading. -/
abbrev Reader := StateT Progress (Except Defect)

/-! ## Tokens -/

/-- A document that does not follow the format. -/
def refuse {α : Type} : Reader α := throw .malformed

/-- The next token. -/
def peek : Reader Token := do
  let p ← get
  match p.tokens, p.defect with
  | t :: _, _ => return t
  | [], none => return .streamEnd
  | [], some d => throw d

/-- Takes the next token. -/
def take : Reader Unit := modify fun p ↦ { p with tokens := p.tokens.tail }

/-- Takes a token that must be there. -/
def expect (t : Token) : Reader Unit := do
  if (← peek) = t then take else refuse

/-- Whether the next token is one of some. -/
def isNext (ts : List Token) : Reader Bool := do return ts.contains (← peek)

/-! ## Anchors and tags -/

/-- Adds a node. -/
def add (n : Node) : Reader NodeRef := do
  let number := (← get).nodes.size
  modify fun p ↦ { p with nodes := p.nodes.push n }
  return number

/-- Notes an anchor, which must be new; its node gets a number before it is read. -/
def noteAnchor (name : Text) : Reader NodeRef := do
  if (← get).anchors.any (·.1 == name) then refuse
  else
    let number ← add empty
    modify fun p ↦ { p with anchors := (name, number) :: p.anchors }
    return number

/-- Puts a node, which is complete, in its place. -/
def place (number : Option NodeRef) (n : Node) : Reader NodeRef :=
  match number with
  | some i => do
    modify fun p ↦ { p with nodes := p.nodes.setIfInBounds i n }
    return i
  | none => add n

/-- The node that an alias repeats. -/
def resolveAlias (name : Text) : Reader NodeRef := do
  match (← get).anchors.lookup name with
  | some i => return i
  | none => refuse

/-- The properties in front of a node: its anchor and its full tag. -/
structure Properties where
  /-- The anchor. -/
  anchor : Option Text := none
  /-- The tag. -/
  tag : Option Text := none

/-- The full form of a tag. -/
def fullTag (handles : Handles) (handle : Option Text) (rest : Text) : Reader Text :=
  match handle with
  | none => return rest
  | some h =>
    match handles.find? fun e ↦ e.1 == h with
    | some (_, lead) => return lead ++ rest
    | none => refuse

/-- Reads the anchor and the tag of a node, in either order. -/
def readProperties (handles : Handles) : Reader Properties := do
  match ← peek with
  | .anchor a =>
    take
    match ← peek with
    | .tag handle rest =>
      take
      return ⟨some a, some (← fullTag handles handle rest)⟩
    | _ => return ⟨some a, none⟩
  | .tag handle rest =>
    take
    match ← peek with
    | .anchor a =>
      take
      return ⟨some a, some (← fullTag handles handle rest)⟩
    | _ => return ⟨none, some (← fullTag handles handle rest)⟩
  | _ => return {}

/-- A tag that leaves the kind of a node open, if it is given at all. -/
def isOpenTag (tag : Option Text) : Bool := tag.isNone || tag == some (Text.ofString "!")

/-- The kind of a collection. -/
def collectionKind (default : Kind) (tag : Option Text) : Kind :=
  if isOpenTag tag then default else Kind.ofTag (tag.getD [])

/-- The kind of a scalar: of its text if it is plain and has no tag. -/
def scalarKind (isPlain : Bool) (tag : Option Text) (t : Text) : Kind :=
  match tag with
  | none => if isPlain then Kind.ofText t else .text
  | some tag => if isOpenTag (some tag) then Kind.ofText t else Kind.ofTag tag

/-! ## Nodes -/

mutual
/-- Reads a node.  Blocks are allowed outside of brackets only, and a sequence without indentation
of its own only as a part of a mapping. -/
def read (handles : Handles) (inBlock undented : Bool) : Nat → Reader NodeRef
  | 0 => refuse
  | steps + 1 => do
    if let .alias name := ← peek then
      take
      return ← resolveAlias name
    let p ← readProperties handles
    let token ← peek
    let number ← p.anchor.mapM noteAnchor
    match token, inBlock with
    | .dash, true =>
      if undented then
        place number (.sequence (collectionKind .sequence p.tag)
          (← readUndented handles [] steps))
      else readNothing p number
    | .scalar t isPlain, _ =>
      take
      place number (.scalar (scalarKind isPlain p.tag t) t)
    | .sequenceOpen, _ =>
      take
      place number (.sequence (collectionKind .sequence p.tag)
        (← readFlowSequence handles true [] steps))
    | .mappingOpen, _ =>
      take
      place number (.mapping (collectionKind .mapping p.tag)
        (← readFlowMapping handles true [] steps))
    | .blockSequence, true =>
      take
      place number (.sequence (collectionKind .sequence p.tag)
        (← readBlockSequence handles [] steps))
    | .blockMapping, true =>
      take
      place number (.mapping (collectionKind .mapping p.tag)
        (← readBlockMapping handles [] steps))
    | _, _ => readNothing p number

/-- The node behind properties that nothing follows; without properties there is none. -/
def readNothing (p : Properties) (number : Option NodeRef) : Reader NodeRef :=
  if p.anchor.isSome || p.tag.isSome then
    place number (.scalar (scalarKind true p.tag []) [])
  else refuse

/-- Reads a node unless one of some tokens follows. -/
def readUnless (handles : Handles) (inBlock undented : Bool) (ends : List Token) :
    Nat → Reader NodeRef
  | 0 => refuse
  | steps + 1 => do
    if ← isNext ends then add empty else read handles inBlock undented steps

/-- Reads the value of a key. -/
def readValue (handles : Handles) (inBlock : Bool) (ends : List Token) : Nat → Reader NodeRef
  | 0 => refuse
  | steps + 1 => do
    if ← isNext [.value] then
      take
      readUnless handles inBlock inBlock ends steps
    else add empty

/-- Reads the entries of a block sequence. -/
def readBlockSequence (handles : Handles) (items : List NodeRef) : Nat → Reader (List NodeRef)
  | 0 => refuse
  | steps + 1 => do
    if ← isNext [.dash] then
      take
      let n ← readUnless handles true false [.dash, .blockEnd] steps
      readBlockSequence handles (n :: items) steps
    else
      expect .blockEnd
      return items.reverse

/-- Reads the entries of a sequence without indentation of its own. -/
def readUndented (handles : Handles) (items : List NodeRef) : Nat → Reader (List NodeRef)
  | 0 => refuse
  | steps + 1 => do
    if ← isNext [.dash] then
      take
      let n ← readUnless handles true false [.dash, .key, .value, .blockEnd] steps
      readUndented handles (n :: items) steps
    else return items.reverse

/-- Reads the entries of a block mapping. -/
def readBlockMapping (handles : Handles) (entries : NodePairs) :
    Nat → Reader NodePairs
  | 0 => refuse
  | steps + 1 => do
    if ← isNext [.key] then
      take
      let k ← readUnless handles true true [.key, .value, .blockEnd] steps
      let v ← readValue handles true [.key, .value, .blockEnd] steps
      readBlockMapping handles ((k, v) :: entries) steps
    else
      expect .blockEnd
      return entries.reverse

/-- Reads the entries of a sequence in brackets; a key among them makes a mapping of one entry. -/
def readFlowSequence (handles : Handles) (isFirst : Bool) (items : List NodeRef) :
    Nat → Reader (List NodeRef)
  | 0 => refuse
  | steps + 1 => do
    if ← isNext [.sequenceClose] then
      take
      return items.reverse
    if !isFirst then expect .comma
    match ← peek with
    | .sequenceClose =>
      take
      return items.reverse
    | .key =>
      take
      let k ← readUnless handles false false [.value, .comma, .sequenceClose] steps
      let v ← readValue handles false [.comma, .sequenceClose] steps
      let n ← add (.mapping .mapping [(k, v)])
      readFlowSequence handles false (n :: items) steps
    | _ =>
      let n ← read handles false false steps
      readFlowSequence handles false (n :: items) steps

/-- Reads the entries of a mapping in braces. -/
def readFlowMapping (handles : Handles) (isFirst : Bool) (entries : NodePairs) :
    Nat → Reader NodePairs
  | 0 => refuse
  | steps + 1 => do
    if ← isNext [.mappingClose] then
      take
      return entries.reverse
    if !isFirst then expect .comma
    match ← peek with
    | .mappingClose =>
      take
      return entries.reverse
    | .key =>
      take
      let k ← readUnless handles false false [.value, .comma, .mappingClose] steps
      let v ← readValue handles false [.comma, .mappingClose] steps
      readFlowMapping handles false ((k, v) :: entries) steps
    | _ =>
      let k ← read handles false false steps
      readFlowMapping handles false ((k, ← add empty) :: entries) steps
end

/-! ## Documents -/

/-- The number of steps that are enough for some tokens. -/
def stepsFor (tokens : List Token) : Nat := 4 * tokens.length + 8

/-- Reads directives; the result are the abbreviations of tags. -/
def readDirectives (handles : Handles) (hasVersion : Bool) : Nat → Reader Handles
  | 0 => refuse
  | steps + 1 => do
    match ← peek with
    | .directive d =>
      take
      match d with
      | .version major =>
        if hasVersion || major ≠ 1 then refuse else readDirectives handles true steps
      | .tag handle lead =>
        if handles.any (·.1 == handle) then refuse
        else readDirectives (handles ++ [(handle, lead)]) hasVersion steps
      | .unknown => readDirectives handles hasVersion steps
    | _ => return handles

/-- Whether a token ends a document without content. -/
def endsDocument : Token → Bool
  | .directive _ | .documentStart | .documentEnd | .streamEnd => true
  | _ => false

/-- Reads the node of the first document. -/
def readDocument (steps : Nat) : Reader NodeRef := do
  match ← peek with
  | .directive _ | .documentStart =>
    let handles ← readDirectives [] false steps
    expect .documentStart
    if endsDocument (← peek) then add empty
    else read (handles ++ standardHandles) true false steps
  | _ => read standardHandles true false steps

/-- Takes marks between documents. -/
def takeDocumentEnds : Nat → Reader Unit
  | 0 => return ()
  | steps + 1 => do
    if ← isNext [.documentEnd] then
      take
      takeDocumentEnds steps

/-- Refuses a second document, as soon as it has begun. -/
def refuseSecond (steps : Nat) : Reader Unit := do
  if !(← isNext [.streamEnd]) then
    let _ ← readDirectives [] false steps
    let _ ← peek
    refuse

end Node

/-- A document that was read. -/
structure Document where
  /-- Its nodes by their numbers. -/
  nodes : Array Node
  /-- Its outermost node. -/
  root : NodeRef
deriving DecidableEq, Repr

/-- The document of a text with one document at most; an empty text has none. -/
def Document.ofText? (t : Text) : Except Defect (Option Document) := do
  let c := cut t
  let steps := Node.stepsFor c.tokens
  let reader : Node.Reader (Option NodeRef) := do
    if ← Node.isNext [.streamEnd] then return none
    let n ← Node.readDocument steps
    Node.takeDocumentEnds steps
    Node.refuseSecond steps
    return some n
  let (root, p) ← reader.run { tokens := c.tokens, defect := c.defect }
  return root.map fun n ↦ ⟨p.nodes, n⟩

end ActorFacade.Yaml
