import RouteWorks.Format.Yaml.Basic
import RouteWorks.Format.Yaml.Token

/-!
# Reading YAML

Tokens are grouped into nodes. A name that is used for a second anchor takes the next number, and
numbers count the names in use, so that a later anchor can come to share a number with it; an alias
stands for the last node that got its number.
-/

namespace RouteWorks.Yaml

/-- What is left of the tokens, and the anchors so far. -/
structure Feed where
  tokens : List Token
  /-- What directives say about the handles of tags. -/
  handles : List (String × String) := []
  /-- The number of every anchor name; of several entries the first counts. -/
  names : List (String × Nat) := []
  /-- The node numbers that belong to the numbers of anchors; the first counts. -/
  places : List (Nat × Nat) := []
  /-- The number of nodes with an anchor that have begun. -/
  begun : Nat := 0
  /-- The finished nodes with an anchor. -/
  nodes : List (Nat × Node) := []
  deriving Repr, Inhabited

/-- A reader of nodes. -/
abbrev Take := StateT Feed Option

/-- The next token. -/
def peek : Take (Option Token) := do return (← get).tokens.head?

/-- Goes over the next token. -/
def advance : Take Unit := modify fun f => { f with tokens := f.tokens.drop 1 }

/-- Goes over the next token if it is the one given. -/
def accept (t : Token) : Take Bool := do
  if (← peek) = some t then advance; return true else return false

/-- Goes over the next token, which has to be the one given. -/
def expect (t : Token) : Take Unit := do
  if !(← accept t) then failure

/-- Whether the next token is one of those given; the end of the tokens is none of them. -/
def comes (ts : List Token) : Take Bool := do
  return ((← peek).map ts.contains).getD false

/-- Takes the anchor before a node, if there is one. -/
def takeAnchor : Take (Option String) := do
  match ← peek with
  | some (.anchor name) => advance; return some name
  | _ => return none

/-- What handles stand for without a directive. -/
def defaultHandles : List (String × String) := [("!", "!"), ("!!", coreTag "")]

/-- Takes the tag before a node, if there is one. -/
def takeTag : Take (Option String) := do
  match ← peek with
  | some (.tag handle suffix) =>
    advance
    if handle = "" then return some suffix
    let f ← get
    match f.handles.lookup handle <|> defaultHandles.lookup handle with
    | some start => return some (start ++ suffix)
    | none => failure
  | _ => return none

/-- Begins a node with an anchor; the result is the number of the node. -/
def beginAnchored (name : String) : Take Nat := do
  let f ← get
  let number := (f.names.map (·.1)).eraseDups.length
  set { f with
    names := (name, number) :: f.names
    places := (number, f.begun) :: f.places
    begun := f.begun + 1 }
  return f.begun

/-- The node that a scalar is. The tag `!` alone takes away every other meaning. -/
def scalarNode (style : Style) (tag : Option String) (s : String) : Node :=
  .scalar style (tag.filter (· ≠ "!")) s

mutual

/-- A node. Block collections are allowed only if `block` says so, and items without a collection
of their own only if `bare` does. -/
def takeNode (block bare : Bool) : Nat → Take Node
  | 0 => failure
  | fuel + 1 => do
    match ← peek with
    | some (.alias name) =>
      advance
      let f ← get
      match f.names.lookup name with
      | some number => return .alias number
      | none => failure
    | _ =>
      let first ← takeAnchor
      let tag ← takeTag
      let anchor ← if first.isSome then pure first else takeAnchor
      let place ← match anchor with
        | some name => (beginAnchored name).map some
        | none => pure none
      let node ← takeContent block bare (anchor.isSome || tag.isSome) tag fuel
      match place with
      | some place =>
        modify fun f => { f with nodes := (place, node) :: f.nodes }
        return node
      | none => return node

/-- What follows the anchor and the tag of a node. -/
def takeContent (block bare marked : Bool) (tag : Option String) : Nat → Take Node
  | 0 => failure
  | fuel + 1 => do
    match ← peek with
    | some .item =>
      if bare then return .sequence tag (← takeBareItems fuel)
      else if marked then return .scalar .plain tag "" else failure
    | some (.scalar style s) => advance; return scalarNode style tag s
    | some .openSequence =>
      advance
      return .sequence tag (← takeFlowItems true fuel)
    | some .openMapping =>
      advance
      return .mapping tag (← takeFlowMembers true fuel)
    | some .blockSequence =>
      if block then
        advance
        return .sequence tag (← takeItems fuel)
      else if marked then return .scalar .plain tag "" else failure
    | some .blockMapping =>
      if block then
        advance
        return .mapping tag (← takeMembers fuel)
      else if marked then return .scalar .plain tag "" else failure
    | _ => if marked then return .scalar .plain tag "" else failure

/-- The items of a block sequence. -/
def takeItems : Nat → Take (List Node)
  | 0 => failure
  | fuel + 1 => do
    if ← accept .blockEnd then return []
    expect .item
    let node ← if ← comes [.item, .blockEnd] then pure .empty else takeNode true false fuel
    return node :: (← takeItems fuel)

/-- The items that stand in a block mapping without a collection of their own. -/
def takeBareItems : Nat → Take (List Node)
  | 0 => failure
  | fuel + 1 => do
    if !(← accept .item) then return []
    let node ← if ← comes [.item, .key, .value, .blockEnd] then pure .empty
      else takeNode true false fuel
    return node :: (← takeBareItems fuel)

/-- The members of a block mapping. -/
def takeMembers : Nat → Take (List (Node × Node))
  | 0 => failure
  | fuel + 1 => do
    if ← accept .blockEnd then return []
    expect .key
    let isMissing := comes [.key, .value, .blockEnd]
    let key ← if ← isMissing then pure .empty else takeNode true true fuel
    let value ← if ← accept .value then
        if ← isMissing then pure .empty else takeNode true true fuel
      else pure .empty
    return (key, value) :: (← takeMembers fuel)

/-- The items of a flow sequence; `first` says that none has been read yet. A key in it starts a
mapping with one member. -/
def takeFlowItems (first : Bool) : Nat → Take (List Node)
  | 0 => failure
  | fuel + 1 => do
    if ← accept .closeSequence then return []
    if !first then expect .comma
    if ← accept .closeSequence then return []
    let node ← if ← accept .key then takePair fuel else takeNode false false fuel
    return node :: (← takeFlowItems false fuel)

/-- A mapping with one member in a flow sequence. Where the key is missing the next token does not
count. -/
def takePair : Nat → Take Node
  | 0 => failure
  | fuel + 1 => do
    let key ← if ← comes [.value, .comma, .closeSequence] then do
        advance
        pure .empty
      else takeNode false false fuel
    let value ← if ← accept .value then
        if ← comes [.comma, .closeSequence] then pure .empty else takeNode false false fuel
      else pure .empty
    return .mapping none [(key, value)]

/-- The members of a flow mapping; `first` says that none has been read yet. -/
def takeFlowMembers (first : Bool) : Nat → Take (List (Node × Node))
  | 0 => failure
  | fuel + 1 => do
    if ← accept .closeMapping then return []
    if !first then expect .comma
    if ← accept .closeMapping then return []
    if ← accept .key then
      let key ← if ← comes [.value, .comma, .closeMapping] then pure .empty
        else takeNode false false fuel
      let value ← if ← accept .value then
          if ← comes [.comma, .closeMapping] then pure .empty else takeNode false false fuel
        else pure .empty
      return (key, value) :: (← takeFlowMembers false fuel)
    else
      let key ← takeNode false false fuel
      return (key, .empty) :: (← takeFlowMembers false fuel)

end

/-- Takes the directives before a document. There is one version at most, 1.1 or 1.2, and one
meaning of a handle. -/
def takeDirectives (versioned : Bool) : Nat → Take Unit
  | 0 => failure
  | fuel + 1 => do
    match ← peek with
    | some (.version major minor) =>
      if versioned || major ≠ 1 || (minor ≠ 1 && minor ≠ 2) then failure
      advance
      takeDirectives true fuel
    | some (.handle name start) =>
      let f ← get
      if (f.handles.lookup name).isSome then failure
      set { f with handles := (name, start) :: f.handles }
      advance
      takeDirectives versioned fuel
    | _ => return ()

/-- Takes the marks of the end of a document. -/
def takeEnds : Nat → Take Unit
  | 0 => return ()
  | fuel + 1 => do
    if ← accept .documentEnd then takeEnds fuel

/-- Takes the node of a document; an empty document has an empty node. -/
def takeRoot (fuel : Nat) : Take Node := do
  match ← peek with
  | none => return .empty
  | some (.version ..) | some (.handle ..) | some .documentStart =>
    takeDirectives false fuel
    expect .documentStart
    match ← peek with
    | none | some (.version ..) | some (.handle ..) | some .documentStart | some .documentEnd =>
      return .empty
    | _ => takeNode true false fuel
  | _ => takeNode true false fuel

/-- Reads the only document of a text. The fuel is enough, since a token is taken at every third
step at the latest. -/
def Document.ofText? (s : String) : Option Document := do
  let ts ← tokens s
  let fuel := 4 * ts.length + 8
  let (root, f) ← (takeRoot fuel).run { tokens := ts }
  let ((), f) ← (takeEnds fuel).run f
  if !f.tokens.isEmpty then none
  let anchored := f.names.filterMap fun (_, number) => do
    let place ← f.places.lookup number
    return (number, ← f.nodes.lookup place)
  return { root, anchored }

end RouteWorks.Yaml
