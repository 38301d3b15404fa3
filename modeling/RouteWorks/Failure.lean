import RouteWorks.Fault

/-!
# Failures of commands

What a command reports when it cannot do its work: the circumstances from the outermost inwards, and
then the cause. What a parser or the operating system has to say about its own errors is not kept.
-/

namespace RouteWorks

/-- A failure. -/
inductive Failure where
  /-- A declaration is at fault. -/
  | fault (f : Fault)
  /-- A cause in words. -/
  | plain (text : String)
  /-- A failure and the circumstances in which it happened. -/
  | during (context : String) (inner : Failure)
  deriving DecidableEq, Repr, Inhabited

namespace Failure

/-- The texts of a failure from the outermost inwards. -/
def texts : Failure → List String
  | fault f => [f.message]
  | plain text => [text]
  | during context inner => context :: inner.texts

/-- The fault that caused a failure, if one did. -/
def fault? : Failure → Option Fault
  | fault f => some f
  | plain _ => none
  | during _ inner => inner.fault?

/-- Adds the circumstances to a failure. -/
def within {α : Type} (context : String) : Except Failure α → Except Failure α :=
  Except.mapError (during context)

/-- A result whose failure is a fault. -/
def ofFault {α : Type} : Except Fault α → Except Failure α :=
  Except.mapError fault

end Failure

end RouteWorks
