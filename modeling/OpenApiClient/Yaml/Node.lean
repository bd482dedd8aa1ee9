import OpenApiClient.Yaml.TokenStream

/-! Nodes of a settings text.
A document is a tree of nodes, each with the place where it starts: with its anchor or tag, if it has
one. An alias stands for an anchored node by its number, and of several nodes with one number for the
last. -/
namespace OpenApiClient.Yaml

inductive Node
  | scalar (place : TextPlace) (text : String) (style : ScalarStyle) (tag : Option Tag)
  | sequence (place : TextPlace) (items : List Node) (tag : Option Tag)
  | mapping (place : TextPlace) (pairs : List (Node × Node)) (tag : Option Tag)
  | alias (place : TextPlace) (number : Nat)
  deriving Repr, Inhabited

namespace Node

def empty (place : TextPlace) : Node := .scalar place "" .plain none

def place : Node → TextPlace
  | scalar place .. => place
  | sequence place .. => place
  | mapping place .. => place
  | «alias» place _ => place

def tag? : Node → Option Tag
  | scalar _ _ _ tag => tag
  | sequence _ _ tag => tag
  | mapping _ _ tag => tag
  | «alias» .. => none

end Node

/-- A document with its anchored nodes, the last anchors first; an empty text has no root. -/
structure Tree where
  root : Option Node
  anchored : List (Nat × Node)
  alone : Bool := true
  deriving Repr

def Tree.anchored? (tree : Tree) (number : Nat) : Option Node := tree.anchored.lookup number

structure Composing where
  tokens : List PlacedToken
  handles : List (String × Tag) := []
  names : List (String × Nat) := []
  anchors : Nat := 0
  /-- The anchored nodes, each with the place of its anchor among all and its number. -/
  anchored : List (Nat × Nat × Node) := []
  deriving Repr

abbrev Compose := StateT Composing Option

namespace Compose

def peek : Compose (Option Token) := do pure ((← get).tokens.head?.map (·.token))

def here : Compose TextPlace := do pure (((← get).tokens.head?.map (·.place)).getD {})

def afterNext : Compose TextPlace := do
  let place ← here
  pure { place with column := place.column + 1 }

def skip : Compose Unit := modify fun s => { s with tokens := s.tokens.tail }

def accept (token : Token) : Compose Bool := do
  if (← peek) = some token then
    skip
    pure true
  else pure false

/-- Takes the anchor at the front, if there is one. Its number is how many names there are, so a
name that comes again may share its number with the next one. -/
def anchor : Compose (Option Nat) := do
  match ← peek with
  | some (.anchor name) => do
    skip
    let number := (← get).names.length
    modify fun s =>
      { s with
        names := (name, number) :: s.names.filter (·.1 ≠ name)
        anchors := s.anchors + 1 }
    pure (some number)
  | _ => pure none

def tag : Compose (Option Tag) := do
  match ← peek with
  | some (.tag handle suffix) => do
    skip
    if handle.isEmpty then pure (some suffix)
    else
      match (← get).handles.lookup handle with
      | some start => pure (some (start.append suffix))
      | none => failure
  | _ => pure none

def properties : Compose (Option Nat × Option Tag) := do
  let number ← anchor
  let given ← tag
  match number with
  | some number => pure (some number, given)
  | none => pure (← anchor, given)

def bare (place : TextPlace) (given : Bool) (tag : Option Tag) : Compose Node :=
  if given then pure (.scalar place "" .plain tag) else failure

/-- Whether a node is left out before one of these tokens. -/
def leftOut (enders : List Token) : Compose Bool := do
  match ← peek with
  | none => pure false
  | some token => pure (token ∈ enders)

mutual
def node (block indentless : Bool) : Nat → Compose Node
  | 0 => failure
  | fuel + 1 => do
    let place ← here
    match ← peek with
    | some (.alias name) => do
      skip
      match (← get).names.lookup name with
      | some number => pure (.alias place number)
      | none => failure
    | _ => do
      let (number, tag) ← properties
      let order := (← get).anchors
      let made ← content place block indentless (number.isSome || tag.isSome) tag fuel
      match number with
      | some number => modify fun s => { s with anchored := (order, number, made) :: s.anchored }
      | none => pure ()
      pure made
def content (place : TextPlace) (block indentless given : Bool) (tag : Option Tag) :
    Nat → Compose Node
  | 0 => failure
  | fuel + 1 => do
    match ← peek with
    | some .blockEntry =>
      if indentless then pure (.sequence place (← indentlessItems fuel) tag)
      else bare place given tag
    | some (.scalar text style) => do
      skip
      pure (.scalar place text style tag)
    | some .flowSequenceStart => do
      skip
      pure (.sequence place (← flowItems true fuel) tag)
    | some .flowMappingStart => do
      skip
      pure (.mapping place (← flowPairs true fuel) tag)
    | some .blockSequenceStart =>
      if block then do
        skip
        pure (.sequence place (← blockItems fuel) tag)
      else bare place given tag
    | some .blockMappingStart =>
      if block then do
        skip
        pure (.mapping place (← blockPairs fuel) tag)
      else bare place given tag
    | _ => bare place given tag
def blockItems : Nat → Compose (List Node)
  | 0 => failure
  | fuel + 1 => do
    let after ← afterNext
    if ← accept .blockEntry then
      let item ←
        if ← leftOut [.blockEntry, .blockEnd] then pure (Node.empty after)
        else node true false fuel
      pure (item :: (← blockItems fuel))
    else if ← accept .blockEnd then pure []
    else failure
def indentlessItems : Nat → Compose (List Node)
  | 0 => failure
  | fuel + 1 => do
    let after ← afterNext
    if ← accept .blockEntry then
      let item ←
        if ← leftOut [.blockEntry, .key, .value, .blockEnd] then pure (Node.empty after)
        else node true false fuel
      pure (item :: (← indentlessItems fuel))
    else pure []
def blockPairs : Nat → Compose (List (Node × Node))
  | 0 => failure
  | fuel + 1 => do
    let after ← afterNext
    if ← accept .key then
      let key ←
        if ← leftOut [.key, .value, .blockEnd] then pure (Node.empty after)
        else node true true fuel
      let value ← blockValue fuel
      pure ((key, value) :: (← blockPairs fuel))
    else if ← accept .blockEnd then pure []
    else failure
def blockValue : Nat → Compose Node
  | 0 => failure
  | fuel + 1 => do
    let after ← afterNext
    if ← accept .value then
      if ← leftOut [.key, .value, .blockEnd] then pure (Node.empty after) else node true true fuel
    else pure (Node.empty (← here))
def flowItems (first : Bool) : Nat → Compose (List Node)
  | 0 => failure
  | fuel + 1 => do
    if ← accept .flowSequenceEnd then pure []
    else if first || (← accept .flowEntry) then
      let place ← here
      if ← accept .key then
        let pair ← flowItemPair fuel
        pure (.mapping place [pair] none :: (← flowItems false fuel))
      else if ← accept .flowSequenceEnd then pure []
      else
        let item ← node false false fuel
        pure (item :: (← flowItems false fuel))
    else failure
/-- A single pair as an item; a key that is left out must not be followed by a value. -/
def flowItemPair : Nat → Compose (Node × Node)
  | 0 => failure
  | fuel + 1 => do
    let key ←
      if ← leftOut [.value, .flowEntry, .flowSequenceEnd] then do
        let place ← here
        skip
        pure (Node.empty place)
      else node false false fuel
    if ← accept .value then
      if ← leftOut [.flowEntry, .flowSequenceEnd] then pure (key, Node.empty (← here))
      else pure (key, ← node false false fuel)
    else pure (key, Node.empty (← here))
def flowPairs (first : Bool) : Nat → Compose (List (Node × Node))
  | 0 => failure
  | fuel + 1 => do
    if ← accept .flowMappingEnd then pure []
    else if first || (← accept .flowEntry) then
      if ← accept .key then
        let key ←
          if ← leftOut [.value, .flowEntry, .flowMappingEnd] then pure (Node.empty (← here))
          else node false false fuel
        let value ← flowValue fuel
        pure ((key, value) :: (← flowPairs false fuel))
      else if ← accept .flowMappingEnd then pure []
      else
        let key ← node false false fuel
        pure ((key, Node.empty (← here)) :: (← flowPairs false fuel))
    else failure
def flowValue : Nat → Compose Node
  | 0 => failure
  | fuel + 1 => do
    if ← accept .value then
      if ← leftOut [.flowEntry, .flowMappingEnd] then pure (Node.empty (← here))
      else node false false fuel
    else pure (Node.empty (← here))
end

def defaultHandles : List (String × Tag) := [("!", .bang), ("!!", .core "")]

/-- The directives of a document: one version, and each handle once. -/
def directives : Nat → Bool → List (String × Tag) → Compose (List (String × Tag))
  | 0, _, handles => pure handles
  | fuel + 1, versioned, handles => do
    match ← peek with
    | some (.versionDirective major minor) =>
      if versioned || major ≠ 1 || !(minor = 1 || minor = 2) then failure
      else do
        skip
        directives fuel true handles
    | some (.tagDirective handle start) =>
      if handles.any fun entry => entry.1 = handle then failure
      else do
        skip
        directives fuel versioned (handles ++ [(handle, start)])
    | _ => pure handles

def isDirective : Token → Bool
  | .versionDirective .. | .tagDirective .. => true
  | _ => false

def document (fuel : Nat) : Compose (Option Node) := do
  match ← peek with
  | none => pure none
  | some token => do
    let explicit := isDirective token || token = .documentStart
    let given ← directives fuel false []
    modify fun s => { s with handles := given ++ defaultHandles }
    if explicit then
      if !(← accept .documentStart) then failure
    let next ← peek
    let root ←
      if explicit
          && next.all (fun token => isDirective token || token ∈ [.documentStart, .documentEnd]) then
        pure (Node.empty (← here))
      else node true false fuel
    modify fun s => { s with tokens := s.tokens.dropWhile (·.token = .documentEnd) }
    pure (some root)

end Compose

def Tree.ofText? (text : String) : Option Tree := do
  let tokens ← tokens? text.toList
  let (root, state) ← (Compose.document (6 * tokens.length + 6)).run { tokens }
  let latestFirst := state.anchored.mergeSort fun a b => a.1 ≥ b.1
  pure ⟨root, latestFirst.map (·.2), state.tokens.isEmpty⟩

end OpenApiClient.Yaml
