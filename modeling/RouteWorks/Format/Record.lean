/-!
# Reading records

A record is read from a node of a document: by name from a mapping, or by position from a list,
where the format has that form. Unknown and repeated names are refused. What a node of a format can
be read as is its `Source`, so that one reader of a record serves every format.
-/

namespace RouteWorks

/-- The two forms of a record in a document. -/
inductive Shape (ν : Type) where
  /-- By name. -/
  | named (members : List (String × ν))
  /-- By position. -/
  | listed (items : List ν)

/-- What the nodes of a format can be read as. -/
structure Source (ν : Type) where
  /-- A record. -/
  shape? : ν → Option (Shape ν)
  /-- A list. -/
  items? : ν → Option (List ν)
  /-- A text. -/
  text? : ν → Option String
  /-- A truth value. -/
  flag? : ν → Option Bool
  /-- A number without a sign. -/
  natural? : ν → Option Nat
  /-- One word of several. -/
  word? : ν → Option String
  /-- A node that can only be a text. -/
  onlyText? : ν → Option String
  /-- A node that can only be a list. -/
  onlyItems? : ν → Option (List ν)
  /-- Whether a node says that there is no value; `none` when it cannot be read. -/
  isNull? : ν → Option Bool
  /-- Whether a list may have more items than the record has fields. -/
  extraItems : Bool

namespace Source

variable {ν α : Type}

/-- The nodes of the fields of a record in the order of `names`. -/
def slots (s : Source ν) (names : List String) (n : ν) : Option (List (Option ν)) := do
  match ← s.shape? n with
  | .named members =>
    let keys := members.map (·.1)
    if keys.all names.contains && keys.eraseDups.length == keys.length
    then some (names.map fun name => members.lookup name)
    else none
  | .listed items =>
    if items.length ≤ names.length || s.extraItems
    then some ((List.range names.length).map fun i => items[i]?)
    else none

/-- A field that has to be there. -/
def required (f : ν → Option α) (slot : Option ν) : Option α :=
  slot.bind f

/-- A field with a value for when it is not there. -/
def withDefault (d : α) (f : ν → Option α) : Option ν → Option α
  | none => some d
  | some n => f n

/-- A field that can be absent or null. -/
def nullable (s : Source ν) (f : ν → Option α) : Option ν → Option (Option α)
  | none => some none
  | some n => do if ← s.isNull? n then return none else return some (← f n)

/-- A list of equal items. -/
def list (s : Source ν) (f : ν → Option α) (n : ν) : Option (List α) := do
  (← s.items? n).mapM f

/-- A number that fits into 32 bits. -/
def natural32? (s : Source ν) (n : ν) : Option Nat :=
  (s.natural? n).filter (· < Nat.pow 2 32)

end Source

end RouteWorks
