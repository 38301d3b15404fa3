import RouteWorks.Format.Toml.Reader
import RouteWorks.Generate.Template
import RouteWorks.Settings.Filter

/-!
# Settings

Settings come from variables of the environment, then from a file, then from defaults. A variable
that is blank counts as absent.
-/

namespace RouteWorks

/-- What a settings file can say. -/
structure SettingsFile where
  log : Option String := none
  logFormat : Option String := none
  formatter : Option String := none
  builder : Option String := none
  debounce : Option Nat := none
  runtimeCrate : Option String := none
  runtimePath : Option String := none
  deriving DecidableEq, Repr, Inhabited

namespace SettingsFile

/-- The name of a settings file. -/
def name : String := "routeforge.toml"

/-- Reads a settings file from the nodes of a document. -/
def read {ν : Type} (s : Source ν) (n : ν) : Option SettingsFile := do
  match ← s.slots ["log", "log_format", "rustfmt_bin", "cargo_bin", "debounce_ms", "runtime_crate",
      "runtime_path"] n with
  | [log, logFormat, formatter, builder, debounce, runtimeCrate, runtimePath] =>
    return {
      log := ← s.nullable s.text? log
      logFormat := ← s.nullable s.text? logFormat
      formatter := ← s.nullable s.text? formatter
      builder := ← s.nullable s.text? builder
      debounce := ← s.nullable (fun n => (s.natural? n).filter (· < Nat.pow 2 64)) debounce
      runtimeCrate := ← s.nullable s.text? runtimeCrate
      runtimePath := ← s.nullable s.text? runtimePath }
  | _ => none

/-- Reads the text of a settings file. -/
def ofText? (text : String) : Option SettingsFile :=
  (Toml.ofText? text).bind (read Toml.source)

end SettingsFile

/-- The settings of a run. -/
structure Settings where
  logLevel : String
  logFormat : LogFormat
  /-- The program that formats sources. -/
  formatter : String
  /-- The program that builds packages. -/
  builder : String
  /-- How long changes have to be over before a build, in milliseconds. -/
  debounce : Nat
  /-- The crate that generated sources import. -/
  runtimeCrate : String
  /-- Where a new project takes that crate from, unless it is a published one. -/
  runtimePath : Option String
  deriving DecidableEq, Repr, Inhabited

namespace Settings

/-- Reads a time in milliseconds. -/
def readDebounce? (s : String) : Option Nat :=
  (Number.IntegerType.read ⟨false, 64⟩ (Text.trim s).toList).toOption.map Int.toNat

/-- The variables of the environment that settings are taken from. -/
def variableNames : List String :=
  ["ROUTEFORGE_LOG", "ROUTEFORGE_LOG_FORMAT", "ROUTEFORGE_RUSTFMT_BIN", "ROUTEFORGE_CARGO_BIN",
    "ROUTEFORGE_DEBOUNCE_MS", "ROUTEFORGE_RUNTIME_CRATE", "ROUTEFORGE_RUNTIME_PATH"]

/-- The settings that a file and the environment give. The runtime in the directory `bundled` stands
in for the default crate only. -/
def ofSources (bundled : String) (file : SettingsFile) (env : String → Option String) :
    Settings :=
  let given (key : String) : Option String := (env key).filter fun v => !Text.isBlankText v
  let pick (key : String) (inFile : Option String) (default : String) : String :=
    ((given key).or inFile).getD default
  let runtimeCrate := pick "ROUTEFORGE_RUNTIME_CRATE" file.runtimeCrate Template.defaultRuntime
  let fallback := if runtimeCrate = Template.defaultRuntime then some bundled else none
  { logLevel := pick "ROUTEFORGE_LOG" file.log "info"
    logFormat := .ofText (pick "ROUTEFORGE_LOG_FORMAT" file.logFormat "pretty")
    formatter := pick "ROUTEFORGE_RUSTFMT_BIN" file.formatter "rustfmt"
    builder := pick "ROUTEFORGE_CARGO_BIN" file.builder "cargo"
    debounce := (((env "ROUTEFORGE_DEBOUNCE_MS").bind readDebounce?).or file.debounce).getD 500
    runtimeCrate
    runtimePath := ((given "ROUTEFORGE_RUNTIME_PATH").or file.runtimePath).or fallback }

end Settings

/-- How a project is generated. -/
structure GenerateOptions where
  /-- Replace files that belong to the user. -/
  force : Bool := false
  /-- Format what was written. -/
  format : Bool := true
  formatter : String
  runtimeCrate : String
  runtimePath : Option String
  deriving DecidableEq, Repr, Inhabited

/-- The options that settings give. -/
def Settings.options (s : Settings) : GenerateOptions :=
  { formatter := s.formatter, runtimeCrate := s.runtimeCrate, runtimePath := s.runtimePath }

end RouteWorks
