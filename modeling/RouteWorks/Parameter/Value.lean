import RouteWorks.Number.Literal
import RouteWorks.Number.Shortest
import RouteWorks.Text.Blank
import RouteWorks.Text.Quoted
import RouteWorks.Text.Split

/-!
# Values of request parameters

A parameter is sent as a list of texts. Its type says how they are read: a scalar takes the last
one, an optional type reads as the type inside it, and a repeated type reads each text alone. A
value may have a length, a number, or both or neither, which is what the rules for it look at.
-/

namespace RouteWorks

/-- The type of a parameter. -/
inductive ParameterType where
  | text
  | flag
  /-- A cookie, which keeps its name. -/
  | cookie
  /-- The integers of a range. -/
  | integer (name : String) (type : Number.IntegerType)
  /-- The floating point numbers of a format. -/
  | real (name : String) (format : Number.Format)
  | optional (item : ParameterType)
  | repeated (item : ParameterType)
  deriving DecidableEq, Repr, Inhabited

/-- A value of a parameter. -/
inductive ParameterValue where
  | text (s : String)
  | flag (b : Bool)
  | cookie (name value : String)
  | integer (n : Int)
  | real (format : Number.Format) (x : Number.Binary)
  | absent
  | present (v : ParameterValue)
  | many (vs : List ParameterValue)
  deriving Repr, Inhabited

/-- Why a text is no value of a type. -/
inductive ValueFault where
  | notFlag (text : String)
  | notInteger (text type : String) (fault : Number.IntegerFault)
  | notReal (text type : String) (fault : Number.DecimalFault)
  deriving DecidableEq, Repr, Inhabited

/-- The wording of the fault. -/
def ValueFault.message : ValueFault → String
  | notFlag text => Text.quote text ++ " is not a boolean"
  | notInteger text type fault =>
    Text.quote text ++ " is not a valid " ++ type ++ ": " ++ fault.message
  | notReal text type fault =>
    Text.quote text ++ " is not a valid " ++ type ++ ": " ++ fault.message

namespace ParameterType

/-- The scalar types by their names. Integers of machine size have 64 bits. -/
def scalars : List (String × ParameterType) :=
  [("String", text), ("bool", flag), ("Cookie", cookie),
   ("f32", real "f32" Number.single), ("f64", real "f64" Number.double)]
  ++ [("i8", true, 8), ("i16", true, 16), ("i32", true, 32), ("i64", true, 64),
      ("isize", true, 64), ("u8", false, 8), ("u16", false, 16), ("u32", false, 32),
      ("u64", false, 64), ("usize", false, 64)].map
    fun (name, signed, width) => (name, integer name ⟨signed, width⟩)

/-- What stands between `pre` and a closing bracket at the end. -/
def argument? (pre : String) (type : List Char) : Option (List Char) :=
  match Text.stripStart? pre.toList type with
  | some inner => if inner.getLast? = some '>' then some inner.dropLast else none
  | none => none

/-- Reads a type from its name; the fuel bounds how deep types are nested. -/
def ofName? (name : String) : Option ParameterType :=
  go name.length name.toList
where
  /-- Reads a type, with the wrapping types first. -/
  go : Nat → List Char → Option ParameterType
    | 0, _ => none
    | fuel + 1, cs =>
      match argument? "Option<" cs, argument? "Vec<" cs with
      | some inner, _ => (go fuel inner).map optional
      | none, some inner => (go fuel inner).map repeated
      | none, none => scalars.lookup (String.ofList cs)

/-- The value of a parameter that was not sent. -/
def default : ParameterType → ParameterValue
  | text => .text ""
  | flag => .flag false
  | cookie => .cookie "" ""
  | integer _ _ => .integer 0
  | real _ f => .real f (.zero f false)
  | optional _ => .absent
  | repeated _ => .many []

/-- Reads a truth value in any of the usual words. -/
def readFlag (s : String) : Except ValueFault ParameterValue :=
  let word := String.ofList (s.toList.map Char.toLower)
  if word ∈ ["1", "true", "on", "yes"] then .ok (.flag true)
  else if word ∈ ["0", "false", "off", "no"] then .ok (.flag false)
  else .error (.notFlag word)

/-- Reads an integer, blanks around it aside. -/
def readInteger (name : String) (t : Number.IntegerType) (s : String) :
    Except ValueFault ParameterValue :=
  match t.read (Text.trimChars s.toList) with
  | .ok n => .ok (.integer n)
  | .error e => .error (.notInteger (Text.trim s) name e)

/-- Reads a floating point number, blanks around it aside. -/
def readReal (name : String) (f : Number.Format) (s : String) :
    Except ValueFault ParameterValue :=
  match Number.readBinary f (Text.trimChars s.toList) with
  | .ok x => .ok (.real f x)
  | .error e => .error (.notReal (Text.trim s) name e)

/-- Reads the texts sent under a name as a value of the type. -/
def read (name : String) : ParameterType → List String → Except ValueFault ParameterValue
  | text, sent => .ok (.text (sent.getLastD ""))
  | flag, sent => readFlag (sent.getLastD "")
  | cookie, sent => .ok (.cookie name (sent.getLastD ""))
  | integer n t, sent => readInteger n t (sent.getLastD "")
  | real n f, sent => readReal n f (sent.getLastD "")
  | optional item, sent => (read name item sent).map .present
  | repeated item, sent => (sent.mapM fun s => read name item [s]).map .many

end ParameterType

namespace ParameterValue

/-- The length of a value: the characters of a text, the values of a list. -/
def length? : ParameterValue → Option Nat
  | text s => some s.length
  | cookie _ value => some value.length
  | many vs => some vs.length
  | present v => length? v
  | _ => none

/-- The number that a value is. -/
def number? : ParameterValue → Option Number.Binary
  | integer n => some (.ofInt Number.double n)
  | real _ x => some (x.convert Number.double)
  | present v => number? v
  | _ => none

/-- Whether a value counts as zero. -/
def isZero : ParameterValue → Bool
  | text s => s.isEmpty
  | flag b => !b
  | cookie _ value => value.isEmpty
  | integer n => n == 0
  | real _ x => x.isZero
  | absent => true
  | present v => isZero v
  | many vs => vs.isEmpty

end ParameterValue

end RouteWorks
