import RouteWorks.Generate.Plan

/-!
# New projects

The project that a new directory starts with: a landing page, a form with an upload, a middleware and
a directory of static files.
-/

namespace RouteWorks.Scaffold

/-- The version of a new package. -/
def version : String := "0.1.0"

/-- A directory below that of the project, seen from the directory `cwd`. -/
def location (cwd dir below : String) : Location :=
  Location.resolve cwd (FilePath.append dir below)

/-- The fields of the form. -/
def formFields : List Field :=
  [{ name := "token", type := "String", position := some .query },
   { name := "name", type := "String", position := some .form, required := true
     len := some "1:10", desc := some "user name" },
   { name := "age", type := "u8", position := some .form, range := some "1:100"
     desc := some "user age" },
   { name := "avatar", type := "Option<UploadedFile>", position := some .form }]

/-- The router of a new project. -/
def router (cwd dir : String) : Except Fault Router := do
  let handlers := location cwd dir "src/handler"
  let index ← Handler.function "Index" "/" [.get] handlers
  let index := (index.withNote "index page").withBody
    "axum::response::Html(include_str!(\"../../static/index.html\")).into_response()"
  let test ← Handler.record "Test" "/test" [.post] handlers formFields
  let test := (test.withNote "test struct handler").withReturns "// JSON\n\x7b\x7d"
  let r ← Router.declare "Route" (location cwd dir "src/router")
  let r ← r.addHandler index
  let r ← r.addHandler test
  let r ← r.addMiddleware (← Middleware.declare "Token" "/test" (location cwd dir "src/middleware"))
  r.addMount (← Mount.declare "static" "/static" "./static")

/-- A new project. -/
def project (cwd dir app version : String) : Except Fault Project := do
  let p : Project := { entry := location cwd dir "src" }
  p.addFrame (← router cwd dir) app version

/-- The files of a new project besides its sources. -/
def supportFiles (dir app runtime : String) (runtimePath : Option String) : List PlannedFile :=
  [{ path := FilePath.append dir "Cargo.toml"
     contents := Template.package app version runtime runtimePath
     mode := .always },
   { path := FilePath.append (FilePath.append dir "static") "index.html"
     contents := Template.landingPage app version
     mode := .always }]

end RouteWorks.Scaffold
