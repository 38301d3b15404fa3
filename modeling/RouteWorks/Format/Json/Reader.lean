import RouteWorks.Format.Json.Token
import RouteWorks.Text.Utf8

/-!
# Reading JSON

Tokens are folded over a stack of open containers. The reader takes exactly one value with nothing
but blanks around it.
-/

namespace RouteWorks.Json

/-- A container that is still open, with its items so far backwards. -/
inductive Frame where
  | array (items : List Json)
  /-- An object between members. -/
  | object (members : List (Json × Json))
  /-- An object with a name whose value is still to come. -/
  | member (members : List (Json × Json)) (name : Json)
  deriving Repr, Inhabited

/-- What may come next. -/
inductive Expect where
  /-- A value. -/
  | value
  /-- A value or the end of the array just opened. -/
  | firstItem
  /-- A name or the end of the object just opened. -/
  | firstName
  /-- A name. -/
  | name
  /-- The colon after a name. -/
  | colon
  /-- A comma or the end of the innermost container. -/
  | next
  /-- Nothing. -/
  | done (v : Json)
  deriving Repr, Inhabited

/-- Where the reader stands. -/
structure State where
  stack : List Frame
  expect : Expect
  deriving Repr, Inhabited

/-- An object with its members in order. One name without a meaning spoils the object. -/
def closeObject (members : List (Json × Json)) : Json :=
  let ms := members.reverse.map fun
    | (string k, v) => some (k, v)
    | _ => none
  if ms.all Option.isSome then object (ms.filterMap id) else malformed

/-- A complete value, put into the innermost open container. -/
def State.put (stack : List Frame) (v : Json) : State :=
  match stack with
  | [] => ⟨[], .done v⟩
  | .array items :: rest => ⟨.array (v :: items) :: rest, .next⟩
  | .member ms name :: rest => ⟨.object ((name, v) :: ms) :: rest, .next⟩
  | .object ms :: rest => ⟨.object ms :: rest, .next⟩

/-- Starts a value. -/
def State.start (stack : List Frame) : Token → Option State
  | .scalar v | .string v => some (State.put stack v)
  | .openArray => some ⟨.array [] :: stack, .firstItem⟩
  | .openObject => some ⟨.object [] :: stack, .firstName⟩
  | _ => none

/-- Takes the name of a member. -/
def State.takeName (stack : List Frame) : Token → Option State
  | .string v =>
    match stack with
    | .object ms :: rest => some ⟨.member ms v :: rest, .colon⟩
    | _ => none
  | _ => none

/-- Takes one token. -/
def State.step (s : State) (t : Token) : Option State :=
  match s.expect, t, s.stack with
  | .value, t, stack => State.start stack t
  | .firstItem, .closeArray, .array items :: rest => some (State.put rest (array items.reverse))
  | .firstItem, t, stack => State.start stack t
  | .firstName, .closeObject, .object ms :: rest => some (State.put rest (closeObject ms))
  | .firstName, t, stack | .name, t, stack => State.takeName stack t
  | .colon, .colon, stack => some ⟨stack, .value⟩
  | .next, .comma, .array items :: rest => some ⟨.array items :: rest, .value⟩
  | .next, .comma, .object ms :: rest => some ⟨.object ms :: rest, .name⟩
  | .next, .closeArray, .array items :: rest => some (State.put rest (array items.reverse))
  | .next, .closeObject, .object ms :: rest => some (State.put rest (closeObject ms))
  | _, _, _ => none

/-- Reads a value from signs. -/
def ofSigns? (s : List Sign) : Option Json := do
  let ts ← tokens s
  let final ← ts.foldlM State.step ⟨[], .value⟩
  match final.expect with
  | .done v => some v
  | _ => none

/-- Reads a value from text. -/
def ofText? (s : String) : Option Json := ofSigns? (s.toList.map some)

/-- Reads a value from octets. -/
def ofOctets? (bs : List UInt8) : Option Json := ofSigns? (Text.decodeUtf8 bs)

/-- A value with the members of every object sorted by name, and the last one of several with the
same name kept; the fuel bounds the depth. -/
def sortMembers : Nat → Json → Json
  | 0, v => v
  | fuel + 1, array items => array (items.map (sortMembers fuel))
  | fuel + 1, object ms =>
    let kept := ms.foldr
      (fun m acc => if acc.any (·.1 = m.1) then acc else (m.1, sortMembers fuel m.2) :: acc) []
    object (kept.mergeSort fun a b => decide (a.1 ≤ b.1))
  | _ + 1, v => v

/-- A value that is used as a whole: sound, and with sorted members. -/
def whole? (v : Json) : Option Json :=
  if isSound depthLimit v then some (sortMembers depthLimit v) else none

end RouteWorks.Json
