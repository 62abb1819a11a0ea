import MediaCatalog.Yaml.Token

/-!
# Nodes

The tree that the tokens of a stream spell out. A stream holds at most one document. Anchors name
nodes, and an alias stands for the node that was named last.

* `Node.ofTokens?`: the tree of a stream.
-/

namespace MediaCatalog.Yaml

/-- A node of a document, perhaps with a tag. -/
inductive Node where
  | scalar (tag : Option String) (plain : Bool) (content : String)
  | list (tag : Option String) (items : List Node)
  | table (tag : Option String) (pairs : List (Node × Node))

namespace Node

/-- The tokens left, the named nodes, and the meanings of handles. -/
structure Progress where
  tokens : List Token
  /-- Nodes by their anchors, the last one first; a node is missing while it is being read. -/
  anchors : List (String × Option Node)
  handles : List (String × String)

/-- A computation on the tokens left. -/
abbrev Build := StateT Progress Option

/-- The tags of the language itself begin with this text. -/
def standardTags : String := "tag:yaml.org,2002:"

/-- A node without content. -/
def empty : Node := scalar none true ""

/-- The next token, which is not consumed. -/
def peek : Build (Option Token) := do return (← get).tokens.head?

/-- Moves past the next token. -/
def skip : Build Unit := modify fun s => { s with tokens := s.tokens.drop 1 }

/-- Whether a given token comes next, which is then consumed. -/
def takes (t : Token) : Build Bool := do
  if (← peek) == some t then
    skip
    return true
  else return false

/-- A given token comes next. -/
def expect (t : Token) : Build Unit := do
  if !(← takes t) then failure

/-- Whether one of some tokens comes next, or nothing. -/
def endsHere (ends : List Token) : Build Bool := do
  return match ← peek with
    | some t => ends.contains t
    | none => true

/-- The tag that a handle and a text denote. -/
def resolveTag (handle rest : String) : Build String := do
  if handle.isEmpty then return rest
  match (← get).handles.find? fun h => h.1 = handle with
  | some (_, meaning) => return meaning ++ rest
  | none => if handle = "!" then return "!" ++ rest else if handle = "!!" then return standardTags ++ rest else failure

/-- The anchor and the tag in front of a node, in either order. -/
def readProperties : Build (Option String × Option String) := do
  let tag? : Build (Option String) := do
    match ← peek with
    | some (.tag handle rest) => skip; return some (← resolveTag handle rest)
    | _ => return none
  match ← peek with
  | some (.anchor name) =>
    skip
    return (some name, ← tag?)
  | some (.tag _ _) =>
    let tag ← tag?
    match ← peek with
    | some (.anchor name) => skip; return (some name, tag)
    | _ => return (none, tag)
  | _ => return (none, none)

/-- Gives a name to a node, which may still be incomplete. -/
def setAnchor (name : Option String) (node : Option Node) : Build Unit :=
  match name with
  | none => return ()
  | some name => modify fun s => { s with anchors := (name, node) :: s.anchors }

/-- The node that a name stands for. -/
def named (name : String) : Build Node := do
  match (← get).anchors.find? fun a => a.1 = name with
  | some (_, some node) => return node
  | _ => failure

/-- Where in a document a node stands. -/
inductive Place where
  /-- Between brackets. -/
  | flow
  | block
  /-- In a mapping laid out by indentation, where a sequence need not be indented. -/
  | mapping
  deriving DecidableEq

/-- An empty node if one of some tokens comes next, or else what is read. -/
def orEmpty (ends : List Token) (r : Build Node) : Build Node := do
  if ← endsHere ends then return empty else r

/-- The items of a sequence laid out by indentation, up to the token that ends it. -/
def readItems (node : Build Node) (ends : List Token) : Nat → Build (List Node)
  | 0 => failure
  | n + 1 => do
    if ← takes .blockEntry then
      let item ← orEmpty (.blockEntry :: ends) node
      return item :: (← readItems node ends n)
    else return []

/-- The value after a key, if there is one. -/
def readValue (node : Build Node) (ends : List Token) : Build Node := do
  if ← takes .value then orEmpty ends node else return empty

/-- The pairs of a mapping laid out by indentation. -/
def readPairs (node : Build Node) : Nat → Build (List (Node × Node))
  | 0 => failure
  | n + 1 => do
    if ← takes .blockEnd then return []
    else
      let ends := [Token.key, .value, .blockEnd]
      expect .key
      let k ← orEmpty ends node
      let v ← readValue node ends
      return (k, v) :: (← readPairs node n)

/-- The items of a sequence between brackets; a pair among them is a mapping of its own. -/
def readFlowItems (node : Build Node) (first : Bool) : Nat → Build (List Node)
  | 0 => failure
  | n + 1 => do
    if ← takes .flowSequenceEnd then return []
    else
      if !first then expect .flowEntry
      if ← takes .flowSequenceEnd then return []
      else
        let item ← if ← takes .key then do
            let k ← if ← endsHere [.value, .flowEntry, .flowSequenceEnd] then do
                skip
                pure empty
              else node
            pure (table none [(k, ← readValue node [.flowEntry, .flowSequenceEnd])])
          else node
        return item :: (← readFlowItems node false n)

/-- The pairs of a mapping between brackets; a node alone is a key. -/
def readFlowPairs (node : Build Node) (first : Bool) : Nat → Build (List (Node × Node))
  | 0 => failure
  | n + 1 => do
    if ← takes .flowMappingEnd then return []
    else
      if !first then expect .flowEntry
      if ← takes .flowMappingEnd then return []
      else
        let pair ← if ← takes .key then do
            let k ← orEmpty [.value, .flowEntry, .flowMappingEnd] node
            pure (k, ← readValue node [.flowEntry, .flowMappingEnd])
          else do pure (← node, empty)
        return pair :: (← readFlowPairs node false n)

/-- Reads a node with nodes to a given depth within it. -/
def readNode : Nat → Place → Build Node
  | 0, _ => failure
  | depth + 1, place => do
    match ← peek with
    | some (.alias name) =>
      skip
      named name
    | _ =>
      let (anchor, tag) ← readProperties
      setAnchor anchor none
      let fuel := (← get).tokens.length + 1
      let node ← match ← peek with
        | some (.scalar plain content) => do
          skip
          pure (scalar tag plain content)
        | some .flowSequenceStart => do
          skip
          pure (list tag (← readFlowItems (readNode depth .flow) true fuel))
        | some .flowMappingStart => do
          skip
          pure (table tag (← readFlowPairs (readNode depth .flow) true fuel))
        | some .blockSequenceStart => do
          if place = .flow then failure
          skip
          let items ← readItems (readNode depth .block) [.blockEnd] fuel
          expect .blockEnd
          pure (list tag items)
        | some .blockMappingStart => do
          if place = .flow then failure
          skip
          pure (table tag (← readPairs (readNode depth .mapping) fuel))
        | next =>
          if next = some .blockEntry ∧ place = .mapping then do
            pure (list tag (← readItems (readNode depth .block) [.key, .value, .blockEnd] fuel))
          else if anchor.isSome || tag.isSome then pure (scalar tag true "")
          else failure
      setAnchor anchor (some node)
      return node

/-- Reads the directives in front of a document: at most one version, which has to be known, and
the meanings of handles, each given once. -/
def readDirectives (versioned : Bool) : Nat → Build Unit
  | 0 => failure
  | n + 1 => do
    match ← peek with
    | some (.version major minor) =>
      if versioned || major ≠ 1 || (minor ≠ 1 && minor ≠ 2) then failure
      skip
      readDirectives true n
    | some (.handle name meaning) =>
      if (← get).handles.any fun h => h.1 = name then failure
      modify fun s => { s with handles := (name, meaning) :: s.handles }
      skip
      readDirectives versioned n
    | _ => return ()

/-- Moves past the marks at the end of a document. -/
def skipEnds : Nat → Build Unit
  | 0 => return ()
  | n + 1 => do if ← takes .documentEnd then skipEnds n

/-- Whether the content of a document is missing after the mark that begins it. -/
def contentMissing : Option Token → Bool
  | none | some .documentStart | some .documentEnd | some (.version _ _) | some (.handle _ _) => true
  | some _ => false

/-- Reads the stream: at most one document. -/
def readStream : Build (Option Node) := do
  let fuel := (← get).tokens.length + 1
  match ← peek with
  | none => return none
  | some t =>
    let isMarked := match t with
      | .documentStart | .version _ _ | .handle _ _ => true
      | _ => false
    if isMarked then
      readDirectives false fuel
      expect .documentStart
    let node ← if isMarked && contentMissing (← peek) then pure empty else readNode fuel .block
    skipEnds fuel
    if (← peek).isSome then failure else return some node

/-- The tree of a stream. A stream without a document has none. -/
def ofTokens? (tokens : List Token) : Option (Option Node) :=
  (readStream ⟨tokens, [], []⟩).map (·.1)

end Node

end MediaCatalog.Yaml
