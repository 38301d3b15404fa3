import RouteWorks.Source.Location

/-!
# References between modules

Code in one module names what another declares through that module: the items of `api/handler` are
imported as `crate::api::handler` and written `handler::index`. Items of the entry module are
written `crate::index`, and items of the same module need no qualifier.
-/

namespace RouteWorks

/-- How the items of one location are named from another. -/
structure ModuleReference where
  /-- The items belong to the entry module. -/
  isEntry : Bool
  /-- The modules from the root of the sources down; empty for the entry module. -/
  modules : List String
  /-- The items are named from the location that declares them. -/
  isLocal : Bool
  deriving DecidableEq, Repr, Inhabited

namespace ModuleReference

/-- How code at `owner` names the items declared at `target`. Only the entry module and the modules
below the root of the sources can be named. -/
def resolve (target owner : Location) (entry : Option Location) : Except Fault ModuleReference :=
  if entry = some target then .ok { isEntry := true, modules := [], isLocal := target = owner }
  else
    match target.properModules? with
    | none => .error (.unresolvableModule target.text)
    | some modules => .ok { isEntry := false, modules, isLocal := target = owner }

/-- The modules as a path with separators. -/
def path (r : ModuleReference) : String := Text.join "/" r.modules

/-- The name that an import binds, as a qualifier. -/
def boundQualifier (r : ModuleReference) : String :=
  if r.isEntry then "" else r.modules.getLastD "" ++ "::"

/-- What stands in front of an item. -/
def qualifier (r : ModuleReference) : String :=
  if r.isLocal then "" else if r.isEntry then "crate::" else r.boundQualifier

/-- The path to import, if one is needed. -/
def import? (r : ModuleReference) : Option String :=
  if r.isLocal || r.isEntry then none
  else some (Text.join "::" ("crate" :: r.modules))

end ModuleReference

end RouteWorks
