import RouteWorks.Command.Arguments
import RouteWorks.FilePath
import RouteWorks.Settings.Filter

/-!
# The command line

The commands and their arguments. The options for logging can stand before and after the name of a
command, and the later ones count.
-/

namespace RouteWorks

/-- The templates of new projects. -/
inductive ProjectTemplate where
  | simple
  deriving DecidableEq, Repr, Inhabited

/-- The word for a template. -/
def ProjectTemplate.word : ProjectTemplate → String
  | simple => "simple"

/-- A command. -/
inductive Command where
  /-- Generates the sources of a manifest. -/
  | generate (manifest : String) (force noFormat : Bool)
  /-- Prints the route trees of a manifest. -/
  | tree (manifest : String)
  /-- Creates a project, and builds, runs and watches it unless told not to. -/
  | new (app : String) (template : ProjectTemplate) (force noRun : Bool)
  /-- Builds, runs and watches a project. -/
  | run (app : Option String)
  deriving DecidableEq, Repr, Inhabited

/-- The directory whose settings apply to a command. -/
def Command.settingsDirectory (c : Command) : String :=
  let dir := match c with
    | generate manifest .. | tree manifest => FilePath.parent? manifest
    | new app .. => FilePath.parent? app
    | run app => app
  match dir with
  | none | some "" => "."
  | some d => d

/-- A command with the options that go with every command. -/
structure CommandLine where
  logLevel : Option String := none
  logFormat : Option LogFormat := none
  command : Command
  deriving DecidableEq, Repr, Inhabited

namespace CommandLine

/-- The option for the filter of log lines. -/
def logLevelOption : Argument := {
  name := "log-level"
  kind := .text
  about := "Log level or filter directive (e.g. \x60debug\x60, \x60routeforge=trace\x60)" }

/-- The option for the form of log lines. -/
def logFormatOption : Argument := {
  name := "log-format"
  kind := .choice [⟨"pretty", "Human-readable, one line per event"⟩,
    ⟨"json", "One JSON object per line"⟩]
  about := "Log line format" }

/-- The flag that asks for help with a command, or with the program as a whole. -/
def helpFlag (command : Option String) : Argument := {
  name := "help"
  letter := some 'h'
  kind := .stop (.help command false)
  about := "Print help (see more with '--help')"
  fullAbout := "Print help (see a summary with '-h')" }

/-- The flag that asks for the version. -/
def versionFlag : Argument := {
  name := "version"
  letter := some 'V'
  kind := .stop .version
  about := "Print version" }

/-- The option for the manifest. -/
def manifestOption : Argument := {
  name := "manifest"
  letter := some 'm'
  kind := .path
  presence := .required
  about := "Route manifest (YAML, JSON or TOML)" }

/-- The flag that lets a command replace files. -/
def forceFlag (about : String) : Argument := {
  name := "force"
  letter := some 'f'
  kind := .flag
  about }

/-- The directory of a project. -/
def appOperand (presence : Presence) (about : String) : Argument := {
  name := "app"
  kind := .path
  presence
  about }

/-- What `generate` takes. -/
def generateUsage : Usage := {
  about := "Generate sources from a route manifest"
  options := [
    logLevelOption,
    manifestOption,
    forceFlag "Overwrite existing handler and middleware files",
    logFormatOption,
    { name := "no-fmt", kind := .flag, about := "Do not run rustfmt on generated sources" },
    helpFlag "generate"] }

/-- What `tree` takes. -/
def treeUsage : Usage := {
  about := "Print the route tree of every frame in a manifest"
  options := [logLevelOption, manifestOption, logFormatOption, helpFlag "tree"] }

/-- What `new` takes. -/
def newUsage : Usage := {
  about := "Create a new project, then build, run and watch it"
  options := [
    logLevelOption,
    { name := "template"
      letter := some 't'
      kind := .choice [⟨ProjectTemplate.simple.word, "A landing page, a form handler with " ++
        "an upload, a token middleware and a static mount"⟩]
      about := "Project template"
      default? := some ProjectTemplate.simple.word },
    forceFlag "Write into an existing, non-empty directory",
    logFormatOption,
    { name := "no-run", kind := .flag, about := "Only generate the project" },
    helpFlag "new"]
  operands := [appOperand .required "Project directory; its last component is the app name"] }

/-- What `run` takes. -/
def runUsage : Usage := {
  about := "Build, run and watch an existing project"
  options := [logLevelOption, logFormatOption, helpFlag "run"]
  operands := [appOperand .optional "Project directory (default: current directory)"] }

/-- The commands that do something, and what they take. -/
def usages : List (String × Usage) :=
  [("generate", generateUsage), ("tree", treeUsage), ("new", newUsage), ("run", runUsage)]

/-- What `help` takes. -/
def helpUsage : Usage := {
  about := "Print this message or the help of the given subcommand(s)"
  operands := [{
    name := "command"
    kind := .text
    presence := .repeated
    about := "Print help for the subcommand(s)" }] }

/-- What stands before the name of a command. -/
def outerUsage : Usage := {
  about := "Route tree code generator for axum"
  options := [logLevelOption, logFormatOption, helpFlag none, versionFlag]
  commands := (usages ++ [("help", helpUsage)]).map fun (name, u) => (name, u.about) }

/-- What a command takes, or what stands before its name. -/
def usageOf (command : Option String) : Usage :=
  match command with
  | none => outerUsage
  | some name => (usages.lookup name).getD helpUsage

/-- The command of a name with the arguments given. -/
def toCommand? (name : String) (g : Given) : Option Command := do
  let value? (key : String) := g.values.lookup key
  let has (key : String) := (value? key).isSome
  match name with
  | "generate" => return .generate (← value? "manifest") (has "force") (has "no-fmt")
  | "tree" => return .tree (← value? "manifest")
  | "new" => return .new (← value? "app") .simple (has "force") (has "no-run")
  | _ => return .run (value? "app")

/-- What `help` asks for: help with the command that is named, or with the program. -/
def explain : List String → UsageFault
  | [] => .help none true
  | [name] => if outerUsage.isCommand name then .help name true else .unknownCommand
  | _ => .unknownCommand

/-- Reads the arguments after the name of the program. The last value before the name of a command
is checked after everything that follows that name. -/
def ofArguments (args : List String) : Except UsageFault CommandLine := do
  let (outer, rest) ← outerUsage.read {} args
  match rest with
  | [] => .error (if outer.values.isEmpty then .noArguments else .missingCommand)
  | name :: args =>
    match usages.lookup name with
    | none => .error (explain args)
    | some u =>
      let (inner, _) ← u.read {} args
      match toCommand? name inner with
      | none => .error .missingArgument
      | some command =>
        let outer ← outer.settle
        let latest (key : String) := (inner.values.lookup key).or (outer.values.lookup key)
        return {
          logLevel := latest "log-level"
          logFormat := (latest "log-format").map .ofText
          command }

end CommandLine

end RouteWorks
