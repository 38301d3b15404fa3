import RouteWorks.Format.Json.Reader
import RouteWorks.Format.Json.Source
import RouteWorks.Format.Toml.Reader
import RouteWorks.Format.Yaml.Reader
import RouteWorks.Manifest.Build
import RouteWorks.Manifest.Read

/-!
# Manifests as text

A manifest is written in one of three notations.
-/

namespace RouteWorks.Manifest

/-- Reads the text of a manifest. -/
def ofText? (format : ManifestFormat) (text : String) : Option Manifest :=
  match format with
  | .yaml => (Yaml.Document.ofText? text).bind fun d => read d.source d.root
  | .json => (Json.ofText? text).bind (read Json.source)
  | .toml => (Toml.ofText? text).bind (read Toml.source)

/-- The project that the text of a manifest in the directory `base` describes. -/
def parse (format : ManifestFormat) (text base : String) : Except Failure Project :=
  match ofText? format text with
  | none => .error (.plain ("Failed to parse " ++ format.label))
  | some m => m.build base

end RouteWorks.Manifest
