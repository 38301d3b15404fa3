import RouteWorks.Format.Json.Basic
import RouteWorks.Format.Record

/-!
# Records in JSON

Records are objects or arrays, words are strings or objects with that one name and a null, and the
other fields are values of their kind.
-/

namespace RouteWorks.Json

/-- What JSON values can be read as. -/
def source : Source Json where
  shape?
    | object ms => some (.named ms)
    | array items => some (.listed items)
    | _ => none
  items?
    | array items => some items
    | _ => none
  text?
    | string s => some s
    | _ => none
  flag?
    | bool b => some b
    | _ => none
  natural?
    | number (.integer n) => if 0 ≤ n then some n.toNat else none
    | _ => none
  word?
    | string s => some s
    | object [(s, null)] => some s
    | _ => none
  onlyText?
    | string s => some s
    | _ => none
  onlyItems?
    | array items => some items
    | _ => none
  isNull?
    | null => some true
    | _ => some false
  extraItems := false

end RouteWorks.Json
