import RouteWorks.Field.Declaration
import RouteWorks.Format.Toml.Quote
import RouteWorks.Project
import RouteWorks.Text.Html

/-!
# The text of generated files

One function for each kind of file: routers, the entry module, module files, handlers, middleware,
and the package and landing page of a new project.
-/

namespace RouteWorks.Template

/-- Lines, each with its line feed. -/
def block (lines : List String) : String := String.join (lines.map (· ++ "\n"))

/-- A text in braces. -/
def braced (s : String) : String := "\x7b" ++ s ++ "\x7d"

/-- The crate that binds requests unless another one is named. -/
def defaultRuntime : String := "routeforge_runtime"

/-- The file of a router. -/
def router (name : Identifier) (chain : Chain) : String :=
  block
    (["//! " ++ name.canonical ++ " route registration.",
      "//!",
      "//! Generated by routeforge and rewritten on every run. Do not edit.",
      ""]
      ++ chain.imports.map (fun path => "use " ++ path ++ ";")
      ++ ["",
        "/// " ++ name.canonical ++ " registers the routes in a tree style.",
        "pub fn " ++ name.snake ++ "(router: axum::Router) -> axum::Router \x7b",
        "    router",
        chain.text])
    ++ "\x7d"

/-- An app that the entry module starts. -/
structure FrameCall where
  name : String
  version : String
  /-- The path of the function of its router. -/
  function : String
  deriving DecidableEq, Repr, Inhabited

/-- The call that makes an app. -/
def frameLine (runtime : String) (f : FrameCall) : String :=
  "        " ++ runtime ++ "::App::new(" ++ Text.quote f.name ++ ", " ++ Text.quote f.version
    ++ ", " ++ f.function ++ "(axum::Router::new())),"

/-- The file of the entry module. -/
def entry (runtime : String) (declarations : List String) (frames : List FrameCall) : String :=
  block
    (["//! Application entry point.",
      "//!",
      "//! Generated by routeforge and rewritten on every run. Do not edit.",
      ""]
      ++ declarations
      ++ ["",
        "#[tokio::main]",
        "async fn main() \x7b",
        "    " ++ runtime ++ "::init_logging();",
        "    " ++ runtime ++ "::run(vec!["]
      ++ frames.map (frameLine runtime)
      ++ ["    ])",
        "    .await;"])
    ++ "\x7d"

/-- The file that declares the modules of a directory. -/
def moduleFile (declarations : List String) : String :=
  block ("//! Module declarations, generated by routeforge." :: "" :: declarations)

/-- The documentation of a handler: its name and the lines of its note. -/
def docLines (h : Handler) : List String :=
  (h.name.canonical :: (Text.lines h.note).map Text.trimEnd).map ("/// " ++ ·)

/-- Whether a handler has documentation beyond its name. -/
def hasDoc (h : Handler) : Bool := h.note ≠ "" || h.returns ≠ ""

/-- The body of a function handler. -/
def functionBody (h : Handler) : String :=
  h.body.getD ("tracing::debug!(method = %req.method(), \"Calling handler - " ++ h.name.canonical
    ++ "...\");\n    axum::http::StatusCode::OK.into_response()")

/-- The file of a handler that is a function. -/
def functionHandler (h : Handler) (runtime : String) : String :=
  let name := h.name.snake
  block
    (["//! " ++ h.name.canonical ++ " handler.",
      "",
      "use axum::extract::Request;",
      "use axum::response::\x7bIntoResponse, Response\x7d;",
      ""]
      ++ docLines h
      ++ ["pub async fn " ++ name ++ "(req: Request) -> Response \x7b",
        "    " ++ functionBody h,
        "\x7d"]
      ++ if hasDoc h then
        ["",
         "/// API documentation of [\x60" ++ name ++ "\x60].",
         "pub const " ++ Text.asciiUpper name ++ "_DOC: " ++ runtime ++ "::Doc = " ++ runtime
           ++ "::Doc \x7b",
         "    note: " ++ Text.quote h.note ++ ",",
         "    returns: " ++ Text.quote h.returns ++ ",",
         "\x7d;"]
      else [])

/-- A field of a generated structure as it is written. -/
structure FieldLine where
  attributes : List String
  ident : String
  type : String
  deriving DecidableEq, Repr, Inhabited

/-- The fields that a declaration becomes: itself and its companion. -/
def fieldLines (d : Declaration) : List FieldLine :=
  { attributes := (d.binding.map Binding.attribute).toList ++ d.attributes
      ++ if d.companion.isSome then ["serde(skip)"] else []
    ident := d.ident
    type := d.type }
    :: (d.companion.map fun c =>
      { attributes := ["param(skip)"], ident := c.ident, type := c.type : FieldLine }).toList

/-- The lines of a field. -/
def FieldLine.lines (f : FieldLine) : List String :=
  f.attributes.map (fun a => "    #[" ++ a ++ "]") ++
    ["    pub " ++ f.ident ++ ": " ++ f.type ++ ","]

/-- The name under which a file is sent in the form. -/
def formName (d : Declaration) : String :=
  ((d.binding.bind (·.key))).getD
    (String.ofList ((Text.stripStart? "r#".toList d.ident.toList).getD d.ident.toList))

/-- The answer to an upload that cannot be stored. -/
def saveFailure : List String :=
  ["            Err(err) => \x7b",
   "                return ctx.json(StatusCode::PRECONDITION_FAILED, &serde_json::json!(\x7b "
     ++ "\"error\": err.to_string() \x7d))",
   "            \x7d",
   "        \x7d"]

/-- The lines that store an upload and keep where it went. -/
def uploadLines (token : String) (d : Declaration) (c : Companion) : List String :=
  let form := Text.quote (formName d)
  let place := token ++ "." ++ c.ident
  match c.kind with
  | .multi =>
    ["        match ctx.save_files(" ++ form ++ ", false).await \x7b",
     "            Ok(saved) => " ++ place ++ ".extend(saved.into_iter().map(|s| s.url)),"]
      ++ saveFailure
  | .single =>
    ["        match ctx.save_file(" ++ form ++ ", false).await \x7b",
     "            Ok(Some(saved)) => " ++ place ++ " = saved.url,",
     "            Ok(None) => \x7b\x7d"]
      ++ saveFailure

/-- The lines of the function that answers with the bound fields. -/
def recordBody (h : Handler) (ds : List Declaration) : List String :=
  match h.body with
  | some body => ["        " ++ body]
  | none =>
    let token := h.name.token.toString
    let uploads := Declaration.uploads ds
    ["        let " ++ (if uploads.isEmpty then "" else "mut ") ++ token ++ " = self;"]
      ++ uploads.flatMap (fun (d, c) => uploadLines token d c)
      ++ ["        ctx.json(StatusCode::OK, &" ++ token ++ ")"]

/-- The file of a handler with fields. -/
def recordHandler (h : Handler) (fields : List Field) (runtime : String) : Except Fault String := do
  let ds ← Field.declareAll fields
  let name := h.name.canonical
  let imports := Ordered.ofList (["Bind", "Context", "Serve"] ++ Field.imports fields)
  return block
    (["//! " ++ name ++ " handler.",
      "",
      "use axum::http::StatusCode;",
      "use axum::response::Response;",
      "use serde::Serialize;",
      "use " ++ runtime ++ "::" ++ braced (Text.join ", " imports) ++ ";",
      ""]
      ++ docLines h
      ++ ["#[derive(Debug, Default, Bind, Serialize)]"]
      ++ (if runtime = defaultRuntime then []
        else ["#[bind(crate = " ++ Text.quote runtime ++ ")]"])
      ++ ["pub struct " ++ name ++ " \x7b"]
      ++ (ds.flatMap fieldLines).flatMap FieldLine.lines
      ++ ["\x7d",
        "",
        "impl Serve for " ++ name ++ " \x7b",
        "    async fn serve(self, ctx: &mut Context) -> Response \x7b"]
      ++ recordBody h ds
      ++ ["    \x7d"]
      ++ if hasDoc h then
        ["",
         "    fn doc() -> " ++ runtime ++ "::Doc \x7b",
         "        " ++ runtime ++ "::Doc \x7b",
         "            note: " ++ Text.quote h.note ++ ",",
         "            returns: " ++ Text.quote h.returns ++ ",",
         "        \x7d",
         "    \x7d"]
      else [])
    ++ "\x7d"

/-- The file of a handler. -/
def handler (h : Handler) (runtime : String) : Except Fault String :=
  match h.fields with
  | none => .ok (functionHandler h runtime)
  | some fields => recordHandler h fields runtime

/-- The body of a middleware. -/
def middlewareBody (m : Middleware) : String :=
  m.body.getD ("tracing::debug!(path = %req.uri().path(), \"Calling middleware - "
    ++ m.name.canonical ++ "...\");\n    next.run(req).await")

/-- The file of a middleware. -/
def middleware (m : Middleware) : String :=
  block
    ["//! " ++ m.name.canonical ++ " middleware.",
     "",
     "use axum::extract::Request;",
     "use axum::middleware::Next;",
     "use axum::response::Response;",
     "",
     "/// " ++ m.name.canonical ++ " runs before the routes it wraps.",
     "pub async fn " ++ m.name.snake ++ "(req: Request, next: Next) -> Response \x7b",
     "    " ++ middlewareBody m]
    ++ "\x7d"

/-- The package file of a new project. The runtime comes from a directory, or else from its
release. -/
def package (name version runtime : String) (runtimePath : Option String) : String :=
  let source := match runtimePath with
    | some path => braced (" path = " ++ Toml.quote path ++ " ")
    | none => "\"0.1\""
  block
    ["[package]",
     "name = \"" ++ name ++ "\"",
     "version = \"" ++ version ++ "\"",
     "edition = \"2021\"",
     "",
     "[dependencies]",
     "axum = \"0.7\"",
     "serde = \x7b version = \"1.0\", features = [\"derive\"] \x7d",
     "serde_json = \"1.0\"",
     "tokio = \x7b version = \"1\", features = [\"full\"] \x7d",
     "tower = \"0.4\"",
     "tower-http = \x7b version = \"0.5\", features = [\"fs\", \"set-header\"] \x7d",
     "tracing = \"0.1\""]
    ++ Text.replace '_' "-" runtime ++ " = " ++ source

/-- The landing page of a new project. -/
def landingPage (name version : String) : String :=
  let name := Text.escapeMarkup name
  block
    ["<!DOCTYPE html>",
     "<html lang=\"en\">",
     "<head>",
     "  <meta charset=\"utf-8\">",
     "  <title>" ++ name ++ "</title>",
     "</head>",
     "<body>",
     "  <h1>Welcome to " ++ name ++ "</h1>",
     "  <p>version " ++ Text.escapeMarkup version ++ "</p>",
     "</body>"]
    ++ "</html>"

end RouteWorks.Template
