import RouteWorks.Format.Json.Source
import RouteWorks.Handler.Serve

/-!
# A small app

Four record handlers that use every kind of field: a form with rules, a page about a user, an item
in the body and a form with files.
-/

namespace RouteWorks.Demo

/-- A parameter of a handler. -/
def parameter (name : String) (position : Position) (type : ParameterType) (rules : Rules)
    (key : String := name) : Slot :=
  { name, key, kind := .parameter position type, rules }

/-- Answers with the fields of the handler. -/
def echo (status : Nat) (s : Storage) (_ : Context) (b : Bound) : Response × Storage :=
  (.json status b.toJson, s)

/-- Creates an account. -/
def signup : Endpoint :=
  { pattern := "/signup"
    note := "create an account"
    returns := "the bound form"
    slots :=
      [parameter "name" .form .text { required := true, len := some "1:10" },
       parameter "referrer" .query (.optional .text) {} "ref",
       parameter "age" .form (.integer "u8" ⟨false, 8⟩)
         { range := some "0:150", error := some "age is out of range" },
       parameter "tags" .form (.repeated .text) { pattern := some "^[a-z]+$" }]
    respond := echo 200 }

/-- Shows a user. -/
def showUser : Endpoint :=
  { pattern := "/users/:id"
    slots :=
      [parameter "id" .path (.integer "u64" ⟨false, 64⟩) { required := true, nonzero := true },
       parameter "token" .header .text {} "x-token",
       parameter "sid" .cookie .cookie {},
       parameter "type" .query .text {},
       { name := "note", key := "note", kind := .fixed (.string "") }]
    respond := echo 200 }

/-- Items with the given parts. -/
def item (title : String) (count : Nat) : Json :=
  .object [("title", .string title), ("count", .nat count)]

/-- Reads an item. Other members than those of an item do not matter. -/
def readItem (v : Json) : Option Json := do
  let known := match v with
    | .object ms => Json.object (ms.filter fun m => m.1 = "title" ∨ m.1 = "count")
    | v => v
  match ← Json.source.slots ["title", "count"] known with
  | [title, count] =>
    return item (← Source.required Json.source.text? title)
      (← Source.required Json.source.natural32? count)
  | _ => none

/-- Creates an item. -/
def createItem : Endpoint :=
  { pattern := "/items"
    slots := [{ name := "item", key := "item", kind := .body readItem (item "" 0),
                rules := { required := true } }]
    respond := fun s _ b => (.json 201 ((b.json? "item").getD .null), s) }

/-- The fields of an upload with the addresses of what was stored. -/
def uploaded (b : Bound) (avatar : Option SavedFile) (photos : List SavedFile) : Json :=
  .object
    [("title", (b.json? "title").getD .null),
     ("avatar_url", .string ((avatar.map (·.url)).getD "")),
     ("photos_urls", .strings (photos.map (·.url)))]

/-- Stores what was uploaded: the avatar first, then the photos. -/
def storeUpload (s : Storage) (c : Context) (b : Bound) : Response × Storage :=
  match s.saveFile c "avatar" false with
  | (.error fault, s) => (.failure 412 fault, s)
  | (.ok avatar, s) =>
    match s.saveFiles c "photos" false with
    | (.error fault, s) => (.failure 412 fault, s)
    | (.ok photos, s) => (.json 200 (uploaded b avatar photos), s)

/-- Stores files with a title. -/
def upload : Endpoint :=
  { pattern := "/upload"
    slots :=
      [parameter "title" .form .text { required := true },
       { name := "avatar", key := "avatar", kind := .upload .optional,
         rules := { maxMegabytes := some 1 } },
       { name := "photos", key := "photos", kind := .upload .many,
         rules := { error := some "too many photos" } }]
    respond := storeUpload }

/-- The endpoints of the app. -/
def endpoints : List Endpoint := [signup, showUser, createItem, upload]

end RouteWorks.Demo
