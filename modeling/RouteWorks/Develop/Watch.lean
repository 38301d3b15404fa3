import RouteWorks.FilePath
import RouteWorks.Text.Case

/-!
# Watched projects

A project that is being worked on is built and started, and built again whenever one of its sources
changes.
-/

namespace RouteWorks

/-- Whether a change of a file matters: it is a source, and not a file that an editor has put
there for a while. -/
def isWatched (path : String) : Bool :=
  let name := Text.asciiLower path
  !(Text.endsWith name ".tmp" || Text.endsWith name "~") && FilePath.extension? path = some "rs"

/-- What is built, started and watched. -/
structure WatchOptions where
  /-- The directory of the project. -/
  directory : String
  /-- The name of the package. -/
  app : String
  /-- The program that builds packages. -/
  builder : String
  /-- How long changes have to be over before a build, in milliseconds. -/
  debounce : Nat
  deriving DecidableEq, Repr, Inhabited

namespace WatchOptions

/-- The program that a build makes. -/
def binary (w : WatchOptions) : String :=
  ["target", "debug", w.app].foldl FilePath.append w.directory

/-- The directory with the sources. -/
def sources (w : WatchOptions) : String := FilePath.append w.directory "src"

end WatchOptions

end RouteWorks
