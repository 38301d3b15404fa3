import RouteWorks.FilePath
import RouteWorks.Name

/-!
# Source locations

A location is an absolute directory, kept as the list of its parts. Reading one folds `.` and `..`
away, so that two spellings of a directory give the same location.
-/

namespace RouteWorks

/-- An absolute directory. -/
structure Location where
  /-- The parts of the path from the root down. -/
  parts : List String
  deriving DecidableEq, Repr, Inhabited

namespace Location

/-- One step of folding a path: `..` removes the part before, if there is one. The parts so far are
kept backwards. -/
def step (parts : List String) (part : String) : List String :=
  if part = "" ∨ part = "." then parts
  else if part = ".." then parts.tail
  else part :: parts

/-- Folds the parts of a path onto a location. -/
def descend (base : List String) (parts : List String) : List String :=
  (parts.foldl step base.reverse).reverse

/-- The parts of a text between separators; a backslash separates as well. -/
def splitText (raw : String) : List String :=
  Text.split (fun c => c == '/' || c == '\\') raw

/-- The location of an absolute path. -/
def ofAbsolute (raw : String) : Location := ⟨descend [] (splitText raw)⟩

/-- The location that `raw` names, seen from the directory `base`. -/
def resolve (base raw : String) : Location :=
  let raw := Text.trim raw
  match raw.toList.head? with
  | some '/' | some '\\' => ofAbsolute raw
  | _ => ⟨descend [] (splitText base ++ splitText raw)⟩

/-- The path of a location. -/
def text (l : Location) : String := "/" ++ Text.join "/" l.parts

/-- The last part; empty for the root. -/
def last (l : Location) : String := l.parts.getLastD ""

/-- The path of a file in a location. -/
def file (l : Location) (name : String) : String := FilePath.append l.text name

/-- The directory name that marks the root of the sources. -/
def rootMarker : String := "src"

/-- The parts up to and with the last marker, and those after it. -/
def splitRoot? (l : Location) : Option (List String × List String) :=
  (Text.cutAt? (· == rootMarker) l.parts.reverse).map fun (after, before) =>
    ((rootMarker :: before).reverse, after.reverse)

/-- The modules below the root of the sources: empty for the root itself, `none` outside of any
root and below directories that are no module names. -/
def modules? (l : Location) : Option (List String) := do
  let (_, below) ← l.splitRoot?
  if below.all Name.isModuleName then some below else none

/-- The modules of a location that is a module itself. -/
def properModules? (l : Location) : Option (List String) :=
  l.modules?.filter (!·.isEmpty)

/-- The root of the sources that a location belongs to. -/
def crateRoot? (l : Location) : Option Location :=
  l.splitRoot?.map fun (root, _) => ⟨root⟩

end Location

end RouteWorks
