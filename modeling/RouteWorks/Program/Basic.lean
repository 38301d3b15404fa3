import RouteWorks.FileSystem.Basic

/-!
# Programs

Other programs format sources, build packages and are the packages that were built. All that matters
about a run is whether the program could be started, how it ended, and what it left behind.
-/

namespace RouteWorks

/-- What comes of running a program. -/
inductive Run where
  /-- It could not be started. -/
  | unstarted
  /-- It was started and ends with a status; `lasting` when that takes its time. -/
  | started (status : Nat) (lasting : Bool)
  deriving DecidableEq, Repr, Inhabited

/-- The programs of a machine: what comes of running one in a directory with arguments. -/
abbrev Programs := FileSystem → Place → String → List String → Run × FileSystem

/-- A machine without programs. -/
def Programs.none : Programs := fun fs _ _ _ => (.unstarted, fs)

/-- Where a command runs. -/
structure Host where
  cwd : Place := []
  programs : Programs := .none

namespace Host

/-- The working directory as a path. -/
def directory (h : Host) : String := "/" ++ Text.join "/" h.cwd

end Host

end RouteWorks
