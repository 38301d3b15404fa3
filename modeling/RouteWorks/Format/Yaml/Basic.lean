import RouteWorks.Format.Record
import RouteWorks.Format.Yaml.Scalar
import RouteWorks.Number.Literal
import RouteWorks.Text.Hex

/-!
# YAML documents

A document is a node together with the nodes that its anchors name. An alias is not replaced by the
node it stands for, but followed when the node is read, so that a document is never larger than its
text.
-/

namespace RouteWorks

namespace Yaml

/-- A node. -/
inductive Node where
  | scalar (style : Style) (tag : Option String) (text : String)
  | sequence (tag : Option String) (items : List Node)
  | mapping (tag : Option String) (members : List (Node × Node))
  /-- The node that an anchor names. -/
  | alias (anchor : Nat)
  deriving Repr, Inhabited

/-- A document: its node, if it is not empty, and the nodes with anchors. -/
structure Document where
  root : Node
  anchored : List (Nat × Node) := []
  deriving Repr, Inhabited

/-- A node without content. -/
def Node.empty : Node := .scalar .plain none ""

/-- The tags of the types that scalars have. -/
def coreTag (name : String) : String := "tag:yaml.org,2002:" ++ name

/-- Whether a word means that there is no value. -/
def isNullWord (s : String) : Bool := ["null", "Null", "NULL", "~"].contains s

/-- The truth value that a word writes. -/
def flagWord? (s : String) : Option Bool :=
  if ["true", "True", "TRUE"].contains s then some true
  else if ["false", "False", "FALSE"].contains s then some false
  else none

/-- The number that digits in a base write. -/
def digits? (base : Nat) (ds : List Char) : Option Nat :=
  if ds.isEmpty then none
  else ds.foldlM (fun n c => ((Text.hexDigit? c).filter (· < base)).map (base * n + ·)) 0

/-- The number that digits write, with a base in front or without one. Decimal numbers of several
digits do not start with a zero. -/
def magnitude? (cs : List Char) : Option Nat :=
  match cs with
  | '0' :: 'x' :: ds => digits? 16 ds
  | '0' :: 'o' :: ds => digits? 8 ds
  | '0' :: 'b' :: ds => digits? 2 ds
  | '0' :: _ :: _ => none
  | ds => digits? 10 ds

/-- The number without a sign that a word writes; it fits into 64 bits. -/
def naturalWord? (s : String) : Option Nat :=
  let n := match s.toList with
    | '+' :: ds => magnitude? ds
    | ds => magnitude? ds
  n.filter (· < Nat.pow 2 64)

/-- Whether a word writes a whole number; numbers have 128 bits. -/
def isWholeWord (s : String) : Bool :=
  match s.toList with
  | '+' :: ds => ((magnitude? ds).filter (· < Nat.pow 2 128)).isSome
  | '-' :: ds => ((magnitude? ds).filter (· ≤ Nat.pow 2 127)).isSome
  | ds => ((magnitude? ds).filter (· < Nat.pow 2 128)).isSome

/-- Whether a word is digits that start with a superfluous zero. -/
def isPadded (s : String) : Bool :=
  let unsigned := match s.toList with
    | '+' :: cs | '-' :: cs => cs
    | cs => cs
  match unsigned with
  | '0' :: d :: ds => (d :: ds).all Char.isDigit
  | _ => false

/-- Whether a word writes a number with a fraction, an exponent, or no bound. -/
def isRealWord (s : String) : Bool :=
  let special := [".inf", ".Inf", ".INF"]
  let unsigned := match s.toList with
    | '+' :: cs => cs
    | cs => cs
  if s.startsWith "+" && (unsigned.head?.map fun c => c == '+' || c == '-').getD false then false
  else if special.contains (String.ofList unsigned)
      || (special.map ("-" ++ ·)).contains s || [".nan", ".NaN", ".NAN"].contains s then true
  else match Number.readBinary Number.double unsigned with
    | .ok (.finite ..) => true
    | _ => false

/-- Whether a plain word is a text: it is not empty and writes neither an absent value, a truth
value nor a number. -/
def isTextWord (s : String) : Bool :=
  !(s.isEmpty || isNullWord s || (flagWord? s).isSome || isWholeWord s
    || (!isPadded s && isRealWord s))

/-- Whether a tag is one of the document's own. -/
def isOwnTag (tag : String) : Bool := tag.startsWith "!"

/-- Whether a scalar can stand for a value that is not a text: it is plain, or it is a literal block
with the tag of the type. -/
def isValueScalar (type : String) (style : Style) (tag : Option String) : Bool :=
  style = .plain || (style = .literal && tag = some (coreTag type))

namespace Document

variable (d : Document)

/-- The node behind an alias. -/
def follow : Node → Option Node
  | .alias anchor => d.anchored.lookup anchor
  | n => some n

/-- The text of a scalar. -/
def text? (n : Node) : Option String := do
  match ← d.follow n with
  | .scalar _ _ s => some s
  | _ => none

/-- Whether a scalar is plain and empty, which stands for an empty collection. -/
def isVoid : Node → Bool
  | .scalar .plain _ s => s.isEmpty
  | _ => false

/-- The members of a mapping; the keys are scalars. -/
def members? (n : Node) : Option (List (String × Node)) := do
  match ← d.follow n with
  | .mapping _ ms => ms.mapM fun (k, v) => (d.text? k).map fun k => (k, v)
  | n => if isVoid n then some [] else none

/-- The items of a sequence. -/
def items? (n : Node) : Option (List Node) := do
  match ← d.follow n with
  | .sequence _ items => some items
  | n => if isVoid n then some [] else none

/-- The value of a scalar that stands for a truth value. -/
def flag? (n : Node) : Option Bool := do
  match ← d.follow n with
  | .scalar style tag s => if isValueScalar "bool" style tag then flagWord? s else none
  | _ => none

/-- The value of a scalar that stands for a number without a sign. -/
def natural? (n : Node) : Option Nat := do
  match ← d.follow n with
  | .scalar style tag s => if isValueScalar "int" style tag then naturalWord? s else none
  | _ => none

/-- One word of several: a scalar, or a tag of the document's own with nothing after it. -/
def word? (n : Node) : Option String := do
  match ← d.follow n with
  | .scalar style (some tag) s =>
    if !isOwnTag tag then some s
    else if style = .plain ∧ (s.isEmpty ∨ isNullWord s) then
      some (String.ofList (tag.toList.drop 1))
    else none
  | .scalar _ none s => some s
  | _ => none

/-- The text of a scalar that could not be anything else. -/
def onlyText? (n : Node) : Option String := do
  match ← d.follow n with
  | .scalar style none s => if style ≠ .plain || isTextWord s then some s else none
  | .scalar _ (some tag) s =>
    if isOwnTag tag || ["bool", "int", "float", "null"].any (tag = coreTag ·) then none else some s
  | _ => none

/-- The items of a sequence without a tag of the document's own. -/
def onlyItems? (n : Node) : Option (List Node) := do
  match ← d.follow n with
  | .sequence tag items => if (tag.map isOwnTag).getD false then none else some items
  | _ => none

/-- Whether a node says that there is no value; `none` when its tag says so and its text does
not. -/
def isNull? (n : Node) : Option Bool := do
  match ← d.follow n with
  | .scalar .plain none s => some (s.isEmpty || isNullWord s)
  | .scalar .plain (some tag) s =>
    if tag = coreTag "null" then if isNullWord s then some true else none else some false
  | _ => some false

/-- What the nodes of a document can be read as: records are mappings only. -/
def source : Source Node where
  shape? n := (d.members? n).map .named
  items? := d.items?
  text? := d.text?
  flag? := d.flag?
  natural? := d.natural?
  word? := d.word?
  onlyText? := d.onlyText?
  onlyItems? := d.onlyItems?
  isNull? := d.isNull?
  extraItems := false

end Document

end Yaml

end RouteWorks
