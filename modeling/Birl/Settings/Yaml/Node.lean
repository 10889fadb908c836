import Birl.Settings.Yaml.Token

/-!
# YAML nodes

The tree that the tokens of the first document of a file make. A node with an anchor can be referred
to from anywhere after its start, so a tree comes with the nodes that its references mean.
-/

namespace Birl.Yaml

/-- A scalar as written: its tag unless it has none, whether it is plain, and its text. -/
structure Written where
  tag? : Option Text := none
  plain : Bool := true
  text : Text := .empty
  deriving Inhabited

inductive Node where
  | scalar (w : Written)
  | list (items : List Node)
  | table (pairs : List (Node × Node))
  /-- The node with the anchor of a name, by its number. -/
  | reference (name : Text) (number : Nat)
  deriving Inhabited

def Node.empty : Node := .scalar {}

structure Reader where
  tokens : List Token
  /-- What the handles of tags stand for. -/
  handles : List (Text × Text) := []
  /-- The numbers of the anchors so far, the last one first. -/
  anchors : List (Text × Nat) := []
  /-- The nodes of the anchors that are complete. -/
  nodes : List (Nat × Node) := []

abbrev Read := StateT Reader Option

namespace Read

def peek : Read Token := do
  match (← get).tokens with
  | t :: _ => return t
  | [] => failure

def skip : Read Unit := modify fun r => { r with tokens := r.tokens.tail }

def advance : Read Token := do
  skip
  peek

/-! ## Directives -/

/-- The directives in front of a document; only one version of the language is known. -/
def directives : (fuel : Nat) → (sawVersion : Bool) → Read Unit
  | 0, _ => failure
  | fuel + 1, sawVersion => do
    match ← peek with
    | .version major minor =>
      if sawVersion || major ≠ 1 || minor ≠ 1 then failure
      else
        skip
        directives fuel true
    | .tagHandle handle meaning =>
      if ((← get).handles.lookup handle).isSome then failure
      else
        modify fun r => { r with handles := (handle, meaning) :: r.handles }
        skip
        directives fuel sawVersion
    | _ => return

/-- The handles that need no directive. -/
def defaultHandles : List (Text × Text) := [("!", "!"), ("!!", "tag:yaml.org,2002:")]

/-! ## Properties of a node -/

def tag (handle name : Text) : Read Text := do
  if handle.isEmpty then return name
  else match ((← get).handles ++ defaultHandles).lookup handle with
    | some meaning => return meaning ++ name
    | none => failure

def properties : Read (Option Text × Option Text) := do
  match ← peek with
  | .anchor name =>
    match ← advance with
    | .tag handle tagName =>
      skip
      return (some name, some (← tag handle tagName))
    | _ => return (some name, none)
  | .tag handle tagName =>
    match ← advance with
    | .anchor name =>
      skip
      return (some name, some (← tag handle tagName))
    | _ => return (none, some (← tag handle tagName))
  | _ => return (none, none)

def reference (name : Text) : Read Node := do
  match (← get).anchors.lookup name with
  | some number => return .reference name number
  | none => failure

/-- Reads a node under an anchor, which it may itself refer to. -/
def anchored (name : Text) (node : Read Node) : Read Node := do
  let number := (← get).anchors.length
  modify fun r => { r with anchors := (name, number) :: r.anchors }
  let n ← node
  modify fun r => { r with nodes := (number, n) :: r.nodes }
  return n

/-! ## Nodes -/

/-- The token that a member of a flow collection starts with, after the comma before it. -/
def flowStart (close : Token) (first : Bool) : Read Token := do
  let t ← peek
  if t = close || first then return t
  else if t = .comma then advance
  else failure

mutual

/-- A node. Block collections start only where `block` says so, and a list at the column of the table
around it only where `flush` does. -/
def node : (fuel : Nat) → (block flush : Bool) → Read Node
  | 0, _, _ => failure
  | fuel + 1, block, flush => do
    match ← peek with
    | .reference name =>
      skip
      reference name
    | _ =>
      let (anchor?, tag?) ← properties
      let bare := anchor?.isNone && tag?.isNone
      match anchor? with
      | some name => anchored name (content fuel block flush bare tag?)
      | none => content fuel block flush bare tag?

/-- A node after its properties; only one that has any may be empty. -/
def content : (fuel : Nat) → (block flush bare : Bool) → Option Text → Read Node
  | 0, _, _, _, _ => failure
  | fuel + 1, block, flush, bare, tag? => do
    match ← peek, block, flush with
    | .dash, _, true => return .list (← flushItems fuel)
    | .scalar plain text, _, _ =>
      skip
      return .scalar { tag?, plain, text }
    | .flowList, _, _ =>
      skip
      return .list (← flowItems fuel true)
    | .flowTable, _, _ =>
      skip
      return .table (← flowPairs fuel true)
    | .blockList, true, _ =>
      skip
      return .list (← blockItems fuel)
    | .blockTable, true, _ =>
      skip
      return .table (← blockPairs fuel)
    | _, _, _ => if bare then failure else return .scalar { tag? }

def blockItems : (fuel : Nat) → Read (List Node)
  | 0 => failure
  | fuel + 1 => do
    match ← peek with
    | .dash =>
      let item ← match ← advance with
        | .dash | .blockEnd => pure Node.empty
        | _ => node fuel true false
      return item :: (← blockItems fuel)
    | .blockEnd =>
      skip
      return []
    | _ => failure

def flushItems : (fuel : Nat) → Read (List Node)
  | 0 => failure
  | fuel + 1 => do
    match ← peek with
    | .dash =>
      let item ← match ← advance with
        | .dash | .key | .value | .blockEnd => pure Node.empty
        | _ => node fuel true false
      return item :: (← flushItems fuel)
    | _ => return []

def blockPairs : (fuel : Nat) → Read (List (Node × Node))
  | 0 => failure
  | fuel + 1 => do
    match ← peek with
    | .key =>
      skip
      let key ← blockMember fuel
      let value ← match ← peek with
        | .value =>
          skip
          blockMember fuel
        | _ => pure Node.empty
      return (key, value) :: (← blockPairs fuel)
    | .blockEnd =>
      skip
      return []
    | _ => failure

def blockMember : (fuel : Nat) → Read Node
  | 0 => failure
  | fuel + 1 => do
    match ← peek with
    | .key | .value | .blockEnd => return Node.empty
    | _ => node fuel true true

/-- The items of a flow list up to its bracket. An item may be a single pair. -/
def flowItems : (fuel : Nat) → (first : Bool) → Read (List Node)
  | 0, _ => failure
  | fuel + 1, first => do
    match ← flowStart .flowListEnd first with
    | .flowListEnd =>
      skip
      return []
    | .key =>
      skip
      let key ← match ← peek with
        | .value | .comma | .flowListEnd =>
          -- Whatever stands here in place of a key is passed over.
          skip
          pure Node.empty
        | _ => node fuel false false
      let value ← flowValue fuel .flowListEnd
      let _ ← peek
      return .table [(key, value)] :: (← flowItems fuel false)
    | _ =>
      let item ← node fuel false false
      return item :: (← flowItems fuel false)

def flowPairs : (fuel : Nat) → (first : Bool) → Read (List (Node × Node))
  | 0, _ => failure
  | fuel + 1, first => do
    match ← flowStart .flowTableEnd first with
    | .flowTableEnd =>
      skip
      return []
    | .key =>
      let key ← match ← advance with
        | .value | .comma | .flowTableEnd => pure Node.empty
        | _ => node fuel false false
      let value ← flowValue fuel .flowTableEnd
      return (key, value) :: (← flowPairs fuel false)
    | _ =>
      let key ← node fuel false false
      let _ ← peek
      return (key, Node.empty) :: (← flowPairs fuel false)

def flowValue : (fuel : Nat) → (close : Token) → Read Node
  | 0, _ => failure
  | fuel + 1, close => do
    match ← peek with
    | .value =>
      let t ← advance
      if t = .comma || t = close then return Node.empty else node fuel false false
    | _ => return Node.empty

end

/-- Whether a token ends a document or starts another. -/
def isDocumentEnd : Token → Bool
  | .version .. | .tagHandle .. | .documentStart | .documentEnd | .fileEnd => true
  | _ => false

/-- The first document, if there is one. Of what follows it only the next token is looked at. -/
def document (fuel : Nat) : Read (Option Node) := do
  match ← peek with
  | .fileEnd => return none
  | .version .. | .tagHandle .. | .documentStart =>
    directives fuel false
    if (← peek) ≠ .documentStart then failure
    else
      let t ← advance
      let n ← if isDocumentEnd t then pure Node.empty else node fuel true false
      let _ ← peek
      return some n
  | _ =>
    let n ← node fuel true false
    let _ ← peek
    return some n

end Read

/-- A document: its root, the nodes that its references mean, and the number of its tokens, which is
more than it has nodes that are not empty. -/
structure Document where
  root : Node
  nodes : List (Nat × Node)
  size : Nat

/-- The first document of a file; one without any is empty. -/
def Document.ofTokens? (ts : List Token) : Option Document :=
  -- A step takes a token, and between two of them no more than two more steps are taken.
  match (Read.document (3 * ts.length + 3)).run { tokens := ts } with
  | none => none
  | some (root?, reader) =>
    some { root := root?.getD Node.empty, nodes := reader.nodes, size := ts.length }

/-- The node that is meant: a reference means the node with its anchor. -/
def Document.target (d : Document) : Node → Node
  | .reference _ number => (d.nodes.lookup number).getD Node.empty
  | n => n

end Birl.Yaml
