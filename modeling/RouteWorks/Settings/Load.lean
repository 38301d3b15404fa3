import RouteWorks.Failure
import RouteWorks.FileSystem.Basic
import RouteWorks.Settings.Basic
import RouteWorks.Text.Octets

/-!
# Settings in files

The settings of a directory are in a file with a fixed name. Without the file the defaults hold.
-/

namespace RouteWorks

namespace SettingsFile

/-- The settings file of a directory; `none` when there is none. -/
def load (fs : FileSystem) (cwd : Place) (dir : String) : Except Failure (Option SettingsFile) :=
  let path := FilePath.append dir name
  if !fs.contains cwd path then .ok none
  else match (fs.file? cwd path).bind fun f => Text.textOf? f.octets with
    | none => .error (.plain ("Failed to read config: " ++ path))
    | some text =>
      match ofText? text with
      | none => .error (.plain ("Failed to parse config: " ++ path))
      | some file => .ok (some file)

end SettingsFile

/-- The settings of a directory and the environment. -/
def Settings.load (fs : FileSystem) (cwd : Place) (dir bundled : String)
    (env : String → Option String) : Except Failure Settings :=
  (SettingsFile.load fs cwd dir).map fun file => ofSources bundled (file.getD {}) env

end RouteWorks
