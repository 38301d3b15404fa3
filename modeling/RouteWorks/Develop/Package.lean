import RouteWorks.Develop.Watch
import RouteWorks.Settings.Load

/-!
# Packages

A directory is a package when the file about it gives the package a name.
-/

namespace RouteWorks

/-- The name of the package in a directory. -/
def packageName (fs : FileSystem) (cwd : Place) (dir : String) : Except Failure String := do
  let path := FilePath.append dir "Cargo.toml"
  let some text := (fs.file? cwd path).bind fun f => Text.textOf? f.octets
    | throw (.plain ("Failed to read " ++ path))
  let some document := Toml.ofText? text
    | throw (.plain ("Failed to parse " ++ path))
  let some name := ((document.member? "package").bind (·.member? "name")).bind Toml.source.text?
    | throw (.plain (path ++ " has no package name"))
  return name

/-- What is built, started and watched for the package in a directory. -/
def WatchOptions.ofPackage (fs : FileSystem) (cwd : Place) (dir : String) (s : Settings) :
    Except Failure WatchOptions :=
  (packageName fs cwd dir).map fun app =>
    { directory := dir, app, builder := s.builder, debounce := s.debounce }

end RouteWorks
