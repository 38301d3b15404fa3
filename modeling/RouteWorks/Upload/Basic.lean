import RouteWorks.FileSystem.Basic
import RouteWorks.Text.Blank

/-!
# Uploaded files

A file that a client sends is stored under a name made from the one it came with: the last part of
it, without the characters that file names should not have. When the name is taken a number is put
between stem and extension, so that no file that is there already is lost.
-/

namespace RouteWorks

/-- A file of a request. -/
structure UploadedFile where
  /-- The name that the client gave. -/
  fileName : String := ""
  contentType : Option String := none
  octets : ByteArray := .empty
  deriving Inhabited

/-- A file that was stored. -/
structure SavedFile where
  url : String
  path : String
  size : Nat
  deriving DecidableEq, Repr

namespace UploadedFile

/-- Characters that have no place in a file name. -/
def isUnsafe (c : Char) : Bool :=
  c.toNat < 0x20 || (0x7F ≤ c.toNat && c.toNat < 0xA0)
    || [':', '*', '?', '"', '<', '>', '|'].contains c

/-- The characters of the name to store a file under; none when nothing is left of it. -/
def cleanName (name : List Char) : List Char :=
  let last := (Text.splitWhen (fun c => c == '/' || c == '\\') name).getLastD []
  Text.trimChars ((last.filter (!isUnsafe ·)).dropWhile (· == '.'))

/-- The name to store a file under. -/
def storedName (name : String) : String :=
  match cleanName name.toList with
  | [] => "upload"
  | cs => String.ofList cs

/-- A name in two parts, the second of which starts with the last dot. A dot at the start of the
name does not count. -/
def splitExtension (name : String) : List Char × List Char :=
  match Text.cutAt? (· == '.') name.toList.reverse with
  | some (_, []) | none => (name.toList, [])
  | some (ext, stem) => (stem.reverse, '.' :: ext.reverse)

/-- The name to try when `n` names before it are taken. -/
def candidate (name : String) : Nat → String
  | 0 => name
  | n + 1 =>
    let (stem, ext) := splitExtension name
    String.ofList (stem ++ '_' :: (toString (n + 1)).toList ++ ext)

/-- The first candidate from the `n`-th on that leads to nothing in a directory, if the names up to
it can be names of files. The fuel is the number of candidates to try. -/
def freeName? (fs : FileSystem) (cwd : Place) (dir name : String) : Nat → Nat → Option String
  | 0, _ => none
  | fuel + 1, n =>
    let c := candidate name n
    if !FileSystem.isNameAllowed c then none
    else if fs.contains cwd (FilePath.append dir c) then freeName? fs cwd dir name fuel (n + 1)
    else some c

/-- The name under which a file goes into a directory: its own with `cover`, else a free one. A name
of dots leads to a directory that is there; besides it, `n` entries leave one of `n + 1` candidates
free. -/
def chooseName? (fs : FileSystem) (cwd : Place) (dir : String) (cover : Bool) (f : UploadedFile) :
    Option String :=
  let name := storedName f.fileName
  if cover then some name else freeName? fs cwd dir name (fs.entries.length + 2) 0

/-- Stores a file in a directory that is there. -/
def saveInto (fs : FileSystem) (cwd : Place) (dir : String) (cover : Bool) (f : UploadedFile) :
    Option (SavedFile × FileSystem) := do
  let name ← chooseName? fs cwd dir cover f
  let path := FilePath.append dir name
  let fs ← fs.write? cwd path f.octets
  let mount := (FilePath.fileName? dir).getD ""
  return ({ url := "/" ++ mount ++ "/" ++ name, path, size := f.octets.size }, fs)

/-- Stores a file in a directory, which is created when it is not there. -/
def save (fs : FileSystem) (cwd : Place) (dir : String) (cover : Bool) (f : UploadedFile) :
    Option SavedFile × FileSystem :=
  let (fs, created) := fs.createDirectory cwd dir
  if created then
    match saveInto fs cwd dir cover f with
    | some (saved, fs) => (some saved, fs)
    | none => (none, fs)
  else (none, fs)

/-- Stores files one after another, and stops at the first that cannot be stored. -/
def saveAll (fs : FileSystem) (cwd : Place) (dir : String) (cover : Bool) :
    List UploadedFile → Option (List SavedFile) × FileSystem
  | [] => (some [], fs)
  | f :: files =>
    match save fs cwd dir cover f with
    | (none, fs) => (none, fs)
    | (some saved, fs) =>
      let (rest, fs) := saveAll fs cwd dir cover files
      (rest.map (saved :: ·), fs)

end UploadedFile

end RouteWorks
