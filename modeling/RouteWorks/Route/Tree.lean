import RouteWorks.Route.Path
import RouteWorks.Spec.Basic

/-!
# The route tree

Specs are grouped by the literal keys of their paths. A node can hold one leaf, which is a handler or
a mount, and any number of middleware. Siblings stand in the order in which their keys first
appeared.
-/

namespace RouteWorks

/-- What ends a route. -/
inductive Leaf where
  | handler (h : Handler)
  | mount (m : Mount)
  deriving DecidableEq, Repr, Inhabited

/-- The name of the route that ends in a leaf. -/
def Leaf.routeName : Leaf → String
  | handler h => h.routeName
  | mount m => m.name

/-- A node of the route tree. -/
structure RouteNode where
  /-- The literal key that leads here. -/
  key : String
  /-- The key and what follows it from the first capture on. -/
  pattern : String
  leaf : Option Leaf := none
  /-- In the order of registration. -/
  middleware : List Middleware := []
  children : List RouteNode := []
  deriving Repr, Inhabited

namespace RouteNode

/-- A node with neither leaf nor middleware. -/
def group (key : String) : RouteNode := { key, pattern := key }

/-- Whether a capture follows the key. -/
def hasTail (n : RouteNode) : Bool := n.pattern ≠ n.key

/-- Whether there is middleware but nothing for it to wrap. -/
def isMiddlewareOnly (n : RouteNode) : Bool :=
  n.leaf.isNone && n.children.isEmpty && !n.middleware.isEmpty

mutual

/-- The number of nodes below a node. -/
def descendants : RouteNode → Nat
  | ⟨_, _, _, _, children⟩ => count children

/-- The number of nodes of a forest. -/
def count : List RouteNode → Nat
  | [] => 0
  | n :: ns => 1 + descendants n + count ns

end

/-- Changes the node with a key in a list of siblings, or adds it at the end. -/
def alter (key : String) (change : Option RouteNode → Except Fault RouteNode) :
    List RouteNode → Except Fault (List RouteNode)
  | [] => do return [← change none]
  | n :: ns =>
    if n.key = key then do return (← change (some n)) :: ns
    else do return n :: (← alter key change ns)

/-- Puts a spec on the node of its last key. A second leaf on a node is a conflict; a leaf gives the
node its pattern. -/
def attach (spec : Spec) (path : Route.Path) (key : String) (old : Option RouteNode) :
    Except Fault RouteNode :=
  let node := old.getD { key, pattern := path.pattern }
  let leaf (l : Leaf) : Except Fault RouteNode :=
    if node.leaf.isSome then .error (.routeConflict spec.path)
    else .ok { node with leaf := some l, pattern := path.pattern }
  match spec with
  | .middleware m => .ok { node with middleware := node.middleware ++ [m] }
  | .handler h => leaf (.handler h)
  | .mount m => leaf (.mount m)

/-- Adds a spec below the node that the keys lead to. -/
def insert (spec : Spec) (path : Route.Path) :
    List String → List RouteNode → Except Fault (List RouteNode)
  | [], forest => .ok forest
  | [key], forest => alter key (attach spec path key) forest
  | key :: keys, forest =>
    alter key
      (fun old => do
        let node := old.getD (group key)
        return { node with children := ← insert spec path keys node.children })
      forest

/-- The top nodes of the tree of all specs, inserted one after another. -/
def build (specs : List Spec) : Except Fault (List RouteNode) :=
  specs.foldlM
    (fun forest spec =>
      let path := Route.Path.ofText spec.path
      insert spec path path.keys forest)
    []

/-- What a node shows besides its pattern. -/
def label (n : RouteNode) : String :=
  (match n.leaf with
    | some (.handler h) => " [" ++ Method.render h.methods ++ "] " ++ h.name.canonical
    | some (.mount m) => " [static] " ++ m.name ++ " -> " ++ m.root
    | none => if n.children.isEmpty then " [middleware only]" else "")
  ++ if n.middleware.isEmpty then ""
     else " use(" ++ Text.join ", " (n.middleware.map fun m => m.name.canonical) ++ ")"

mutual

/-- The lines of a node and of all below, indented by depth. -/
def display (depth : Nat) : RouteNode → List String
  | ⟨key, pattern, leaf, middleware, children⟩ =>
    (Text.replicate (2 * depth) " " ++ "/" ++ pattern
      ++ label ⟨key, pattern, leaf, middleware, children⟩ ++ "\n")
      :: displayAll (depth + 1) children

/-- The lines of a forest. -/
def displayAll (depth : Nat) : List RouteNode → List String
  | [] => []
  | n :: ns => display depth n ++ displayAll depth ns

end

/-- The text that shows a tree. -/
def displayText (forest : List RouteNode) : String :=
  String.join (displayAll 0 forest)

end RouteNode

end RouteWorks
