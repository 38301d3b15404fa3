import RouteWorks.Format.Record

/-!
# TOML values

The values of TOML. Of numbers with a fraction and of dates only their place is kept, since nothing
reads them.
-/

namespace RouteWorks

/-- A TOML value. -/
inductive Toml where
  | string (s : String)
  | integer (n : Int)
  | bool (b : Bool)
  | real
  | moment
  | array (items : List Toml)
  | table (members : List (String × Toml))
  deriving Repr, Inhabited

namespace Toml

/-- The value of a member. -/
def member? (name : String) : Toml → Option Toml
  | table ms => ms.lookup name
  | _ => none

/-- What TOML values can be read as: records are tables or arrays, and nothing is null. -/
def source : Source Toml where
  shape?
    | table ms => some (.named ms)
    | array items => some (.listed items)
    | _ => none
  items?
    | array items => some items
    | _ => none
  text?
    | string s => some s
    | _ => none
  flag?
    | bool b => some b
    | _ => none
  natural?
    | integer n => if 0 ≤ n then some n.toNat else none
    | _ => none
  word?
    | string s => some s
    | table [(s, table [])] => some s
    | _ => none
  onlyText?
    | string s => some s
    | _ => none
  onlyItems?
    | array items => some items
    | _ => none
  isNull? _ := some false
  extraItems := true

end Toml

end RouteWorks
