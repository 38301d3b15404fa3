import RouteWorks.Text.Split

/-!
# File paths as text

Paths of files are kept as they are written. Parts are separated by `/`; repeated separators,
separators at the end and inner `.` parts do not count when a path is taken apart.
-/

namespace RouteWorks.FilePath

/-- Whether a path starts at the root. -/
def isAbsolute (p : String) : Bool := p.toList.head? == some '/'

/-- A path below another; an absolute one takes its place. -/
def append (base p : String) : String :=
  if isAbsolute p then p
  else if base = "" then p
  else if base.toList.getLast? == some '/' then base ++ p
  else base ++ "/" ++ p

/-- The parts of a path, each with how many characters are left before it. A leading `.` of a
relative path is a part. -/
def splitParts (p : String) : List String :=
  let parts := Text.split (· == '/') p
  match parts with
  | "." :: rest => "." :: rest.filter fun s => s ≠ "" && s ≠ "."
  | _ => parts.filter fun s => s ≠ "" && s ≠ "."

/-- The last part when it names something: neither `..` nor a lone `.`. -/
def fileName? (p : String) : Option String :=
  match (splitParts p).getLast? with
  | some ".." => none
  | some "." => none
  | last => last

/-- Drops the separators and `.` parts that end a list of characters kept backwards. -/
def dropTrailing : List Char → List Char
  | '/' :: rest => dropTrailing rest
  | '.' :: '/' :: rest => dropTrailing rest
  | cs => cs

/-- The path without its last part; `none` for a path without parts. -/
def parent? (p : String) : Option String :=
  if (splitParts p).isEmpty then none
  else
    let front := (dropTrailing p.toList.reverse).dropWhile (· ≠ '/')
    let trimmed := dropTrailing front
    if trimmed.isEmpty then some (if front.isEmpty then "" else "/")
    else some (String.ofList trimmed.reverse)

/-- What follows the last dot of the last part, when something stands in front of the dot. -/
def extension? (p : String) : Option String := do
  let name ← fileName? p
  let (ext, front) ← Text.cutAt? (· == '.') name.toList.reverse
  if front.isEmpty then none else some (String.ofList ext.reverse)

end RouteWorks.FilePath
