import RouteWorks.FilePath

/-!
# File systems

A file system says for every place what is there: a file, a directory or nothing. Paths are texts;
they are walked from the root or from a working directory, and `..` leads to the directory above the
one that was reached. The operations fail where an operating system refuses them.
-/

namespace RouteWorks

/-- A place in a file system: the names on the way from the root. -/
abbrev Place := List String

/-- When a file was changed. -/
inductive Stamp where
  /-- A time that was set, in seconds. -/
  | time (seconds : Int)
  /-- The number of the change. -/
  | change (n : Nat)
  deriving DecidableEq, Repr, Inhabited

/-- A file. -/
structure FileData where
  octets : ByteArray
  executable : Bool := false
  modified : Stamp

/-- What is at a place. -/
inductive Entry where
  | file (data : FileData)
  | directory

/-- A file system. -/
structure FileSystem where
  entries : List (Place × Entry) := []
  /-- How many changes there were. -/
  changes : Nat := 0

namespace FileSystem

/-- What is at a place. The root is a directory. -/
def get? (fs : FileSystem) (p : Place) : Option Entry :=
  if p = [] then some .directory else fs.entries.lookup p

/-- Whether a directory is at a place. -/
def isDirectory (fs : FileSystem) (p : Place) : Bool :=
  match fs.get? p with
  | some .directory => true
  | _ => false

/-- Puts something at a place, in place of what was there. -/
def insert (fs : FileSystem) (p : Place) (e : Entry) : FileSystem :=
  { entries := (p, e) :: fs.entries.filter (·.1 ≠ p), changes := fs.changes + 1 }

/-- Removes what is at a place and below it. -/
def erase (fs : FileSystem) (p : Place) : FileSystem :=
  { entries := fs.entries.filter fun e => !p.isPrefixOf e.1, changes := fs.changes + 1 }

/-- Whether a name can be that of an entry. -/
def isNameAllowed (name : String) : Bool :=
  name.utf8ByteSize ≤ 255 && !name.toList.contains '\x00'

/-- The place above. -/
def above (p : Place) : Place := p.dropLast

/-- Walks from a place along the parts of a path. Every place that a part is looked for in has to
be a directory; the last part may name nothing. -/
def walk (fs : FileSystem) (p : Place) : List String → Option Place
  | [] => some p
  | part :: parts =>
    if !fs.isDirectory p then none
    else if part = "." ∨ part = "" then walk fs p parts
    else if part = ".." then walk fs (above p) parts
    else if isNameAllowed part then walk fs (p ++ [part]) parts
    else none

/-- The parts of a path. -/
def parts (path : String) : List String := Text.split (· == '/') path

/-- Where a path starts. -/
def origin (cwd : Place) (path : String) : Place :=
  if FilePath.isAbsolute path then [] else cwd

/-- The place that a path leads to. -/
def locate? (fs : FileSystem) (cwd : Place) (path : String) : Option Place :=
  fs.walk (origin cwd path) (parts path)

/-- What a path leads to. The empty path leads to nothing. -/
def find? (fs : FileSystem) (cwd : Place) (path : String) : Option Entry :=
  if path = "" then none else (fs.locate? cwd path).bind fs.get?

/-- Whether a path leads to something. -/
def contains (fs : FileSystem) (cwd : Place) (path : String) : Bool :=
  (fs.find? cwd path).isSome

/-- The file that a path leads to. -/
def file? (fs : FileSystem) (cwd : Place) (path : String) : Option FileData :=
  match fs.find? cwd path with
  | some (.file data) => some data
  | _ => none

/-- Writes a file, which is created when it is not there. An executable file stays one. -/
def write? (fs : FileSystem) (cwd : Place) (path : String) (octets : ByteArray) :
    Option FileSystem := do
  let p ← fs.locate? cwd path
  match fs.get? p with
  | some .directory => none
  | some (.file data) =>
    return fs.insert p (.file { data with octets, modified := .change fs.changes })
  | none =>
    if fs.isDirectory (above p) then
      return fs.insert p (.file { octets, modified := .change fs.changes })
    else none

/-- Changes what is known about a file that is there. -/
def alterFile? (fs : FileSystem) (cwd : Place) (path : String) (change : FileData → FileData) :
    Option FileSystem := do
  let p ← fs.locate? cwd path
  match fs.get? p with
  | some (.file data) => return fs.insert p (.file (change data))
  | _ => none

/-- Creates the directories along the parts of a path that are not there yet. The result says
whether all are there in the end; those created before a failure stay. -/
def createAlong (fs : FileSystem) (p : Place) : List String → FileSystem × Bool
  | [] => (fs, fs.isDirectory p)
  | part :: parts =>
    if part = "." ∨ part = "" then createAlong fs p parts
    else if !fs.isDirectory p then (fs, false)
    else if part = ".." then createAlong fs (above p) parts
    else if !isNameAllowed part then (fs, false)
    else
      let p := p ++ [part]
      match fs.get? p with
      | some .directory => createAlong fs p parts
      | some (.file _) => (fs, false)
      | none => createAlong (fs.insert p .directory) p parts

/-- Creates a directory and those above it. The empty path needs none. -/
def createDirectory (fs : FileSystem) (cwd : Place) (path : String) : FileSystem × Bool :=
  if path = "" then (fs, true) else fs.createAlong (origin cwd path) (parts path)

/-- The names in a directory; `none` when there is no directory. -/
def names? (fs : FileSystem) (cwd : Place) (path : String) : Option (List String) := do
  let p ← fs.locate? cwd path
  if fs.isDirectory p then
    return fs.entries.filterMap fun e => if e.1 ≠ [] ∧ above e.1 = p then e.1.getLast? else none
  else none

/-- The files below a place, as paths from there. -/
def filesBelow (fs : FileSystem) (p : Place) : List String :=
  fs.entries.filterMap fun (q, e) =>
    match e with
    | .file _ => (Text.stripStart? p q).map (Text.join "/")
    | .directory => none

end FileSystem

end RouteWorks
