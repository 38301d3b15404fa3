import RouteWorks.Generate.Write
import RouteWorks.Manifest.Parse
import RouteWorks.Text.Octets

/-!
# Manifests in files

The extension of a file says in which notation a manifest is written. Directories in it are seen
from the directory of the file.
-/

namespace RouteWorks

namespace Manifest

/-- The project that the manifest in a file describes. -/
def load (fs : FileSystem) (cwd : Place) (path : String) : Except Failure Project := do
  let some format := (FilePath.extension? path).bind ManifestFormat.ofExtension?
    | throw (.plain ("Unsupported manifest extension: " ++ path))
  let some text := (fs.file? cwd path).bind fun f => Text.textOf? f.octets
    | throw (.plain ("Failed to read manifest: " ++ path))
  let parent := match FilePath.parent? path with
    | none | some "" => "."
    | some p => p
  let some place := fs.locate? cwd parent
    | throw (.plain ("Failed to resolve manifest directory: " ++ parent))
  Failure.within ("Invalid manifest: " ++ path)
    (parse format text ("/" ++ Text.join "/" place))

end Manifest

/-- Generates the project that the manifest in a file describes. -/
def GenerateOptions.generateManifest (o : GenerateOptions) (h : Host) (path : String) :
    Action Report := fun fs =>
  match Manifest.load fs h.cwd path with
  | .ok p => o.generateProject h p fs
  | .error failure => .error failure fs

end RouteWorks
