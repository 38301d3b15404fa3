import RouteWorks.Request.Basic

/-!
# Media types

A media type is a type and a subtype with parameters, such as `text/plain; charset=utf-8`. Case
matters in values of parameters only, except for the character set.
-/

namespace RouteWorks

/-- A media type. -/
structure MediaType where
  /-- Type and subtype, in lower case. -/
  essence : String
  /-- The parameters, with names in lower case. -/
  parameters : List (String × String)
  /-- The whole in its usual form. -/
  text : String
  deriving DecidableEq, Repr, Inhabited

namespace MediaType

/-- The characters that need no quotes. -/
def isTokenChar (c : Char) : Bool :=
  c.isAlphanum || "!#$%&'*+-.^_\x60|~".toList.contains c

/-- Lower case for letters of ASCII. -/
def lower (cs : List Char) : List Char := cs.map Char.toLower

/-- A value between quotes, and what follows it; at least one character stands between them. -/
def readQuoted : List Char → Option (List Char × List Char)
  | [] => none
  | c :: cs =>
    let allowed (c : Char) := 31 < c.toNat && c.toNat ≠ 127
    if !allowed c then none
    else
      let more := cs.takeWhile fun c => c ≠ '"' && allowed c
      match cs.dropWhile fun c => c ≠ '"' && allowed c with
      | '"' :: rest => some (c :: more, rest)
      | _ => none

/-- The value of a parameter: its text as written, the value itself, and what follows. After a
quoted value blanks can stand. -/
def readValue (cs : List Char) : Option (List Char × List Char × List Char) :=
  match cs with
  | '"' :: inner => do
    let (value, rest) ← readQuoted inner
    let blanks := rest.takeWhile (· == ' ')
    return ('"' :: value ++ '"' :: blanks, value, rest.dropWhile (· == ' '))
  | _ =>
    let value := cs.takeWhile isTokenChar
    let rest := cs.dropWhile isTokenChar
    if value.isEmpty && !rest.isEmpty then none else some (value, value, rest)

/-- Reads parameters; each stands after a semicolon that has been read. The result is their text
and the parameters. The fuel bounds their number. -/
def readParameters : Nat → List Char → Option (List Char × List (String × String))
  | 0, _ => none
  | fuel + 1, cs =>
    let blanks := cs.takeWhile (· == ' ')
    let cs := cs.dropWhile (· == ' ')
    if cs.isEmpty then some (blanks, [])
    else do
      let name := lower (cs.takeWhile isTokenChar)
      if name.isEmpty then none
      let afterName ← (cs.dropWhile isTokenChar).head?.bind fun c =>
        if c == '=' then some ((cs.dropWhile isTokenChar).drop 1) else none
      let (written, value, rest) ← readValue afterName
      let written := if name = "charset".toList then lower written else written
      let value := if name = "charset".toList then lower value else value
      let parameter := (String.ofList name, String.ofList value)
      match rest with
      | [] => return (blanks ++ name ++ '=' :: written, [parameter])
      | ';' :: rest =>
        let (text, more) ← readParameters fuel rest
        return (blanks ++ name ++ '=' :: (written ++ ';' :: text), parameter :: more)
      | _ => none

/-- Reads a media type. -/
def ofText? (s : String) : Option MediaType := do
  let (type, rest) ← Text.cutAt? (· == '/') s.toList
  if type.isEmpty || !type.all isTokenChar then none
  let subtype := rest.takeWhile isTokenChar
  let essence := lower (type ++ '/' :: subtype)
  match rest.dropWhile isTokenChar with
  | [] =>
    return { essence := String.ofList essence, parameters := [], text := String.ofList essence }
  | ';' :: tail =>
    if subtype.isEmpty then none
    let (text, parameters) ← readParameters (tail.length + 1) tail
    let text := if parameters.isEmpty then essence else essence ++ ';' :: text
    return { essence := String.ofList essence, parameters, text := String.ofList text }
  | _ => none

/-- The first parameter with a name. -/
def parameter? (m : MediaType) (name : String) : Option String := m.parameters.lookup name

end MediaType

end RouteWorks
