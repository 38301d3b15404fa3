import RouteWorks.Format.Toml.Basic

/-!
# Assembling TOML documents

A document is a list of statements: headers open tables, and entries put values into the table that
is open. Every table is defined in one place only, so how a table came to be decides what may still
be added to it.
-/

namespace RouteWorks.Toml

/-- How a table came to be. -/
inductive Origin where
  /-- On the way of a header to a table below it. -/
  | implied
  /-- By a header of its own. -/
  | headed
  /-- On the way of a dotted key. -/
  | dotted
  deriving DecidableEq, Repr, Inhabited

/-- A part of a document under construction. -/
inductive Item where
  /-- A finished value. -/
  | leaf (v : Toml)
  | table (origin : Origin) (members : List (String × Item))
  /-- Tables under one name; the last one is open. -/
  | tables (items : List (List (String × Item)))
  deriving Repr, Inhabited

/-- A statement. -/
inductive Statement where
  | header (path : List String)
  /-- The header of one of several tables under one name. -/
  | itemHeader (path : List String)
  | entry (path : List String) (v : Toml)
  deriving Repr, Inhabited

/-- The members of a table under construction. -/
abbrev Members := List (String × Item)

/-- Changes the member with a name, or adds one. -/
def alter (name : String) (change : Option Item → Option Item) : Members → Option Members
  | [] => do return [(name, ← change none)]
  | (k, item) :: rest =>
    if k = name then do return (k, ← change (some item)) :: rest
    else do return (k, item) :: (← alter name change rest)

/-- Changes the open table at a member, which is made with the given origin when it is not there.
`enters` says which tables may be entered. -/
def enter (origin : Origin) (enters : Origin → Bool) (intoTables : Bool)
    (change : Members → Option Members) : Option Item → Option Item
  | none => do return .table origin (← change [])
  | some (.table o ms) => if enters o then do return .table o (← change ms) else none
  | some (.tables items) =>
    if intoTables then
      match items.getLast? with
      | some last => do return .tables (items.dropLast ++ [← change last])
      | none => none
    else none
  | some (.leaf _) => none

/-- Changes the table that a path of headers leads to. -/
def atHeader (change : Members → Option Members) : List String → Members → Option Members
  | [], ms => change ms
  | k :: ks, ms => alter k (enter .implied (fun _ => true) true (atHeader change ks)) ms

/-- Changes the table that the front of a dotted key leads to. -/
def atKey (change : Members → Option Members) : List String → Members → Option Members
  | [], ms => change ms
  | k :: ks, ms => alter k (enter .dotted (· ≠ .headed) false (atKey change ks)) ms

/-- Opens a table by its header. -/
def openTable : Option Item → Option Item
  | none => some (.table .headed [])
  | some (.table .implied ms) => some (.table .headed ms)
  | _ => none

/-- Opens one more table under a name. -/
def openItem : Option Item → Option Item
  | none => some (.tables [[]])
  | some (.tables items) => some (.tables (items ++ [[]]))
  | _ => none

/-- Puts a value under a name that is free. -/
def put (v : Toml) : Option Item → Option Item
  | none => some (.leaf v)
  | some _ => none

/-- Applies a change to the last name of a path. -/
def atLast (walk : (Members → Option Members) → List String → Members → Option Members)
    (change : Option Item → Option Item) (path : List String) (ms : Members) : Option Members :=
  match path.getLast? with
  | none => none
  | some name => walk (alter name change) path.dropLast ms

/-- A document under construction: the path of the open table and all members. -/
structure Draft where
  open_ : List String := []
  members : Members := []
  deriving Repr, Inhabited

/-- Adds a statement. -/
def Draft.add (d : Draft) : Statement → Option Draft
  | .header path => do return ⟨path, ← atLast atHeader openTable path d.members⟩
  | .itemHeader path => do return ⟨path, ← atLast atHeader openItem path d.members⟩
  | .entry path v => do
    let members ← atHeader (atLast atKey (put v) path) d.open_ d.members
    return { d with members }

mutual

/-- The value of a finished part. -/
def Item.value : Item → Toml
  | .leaf v => v
  | .table _ ms => .table (valueMembers ms)
  | .tables items => .array (valueTables items)

/-- The values of finished members. -/
def valueMembers : List (String × Item) → List (String × Toml)
  | [] => []
  | (k, item) :: rest => (k, item.value) :: valueMembers rest

/-- The values of finished tables. -/
def valueTables : List (List (String × Item)) → List Toml
  | [] => []
  | ms :: rest => .table (valueMembers ms) :: valueTables rest

end

/-- The table that statements make. -/
def assemble (statements : List Statement) : Option Toml := do
  let d ← statements.foldlM Draft.add {}
  return .table (valueMembers d.members)

end RouteWorks.Toml
