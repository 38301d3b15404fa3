import RouteWorks.Number.Literal
import RouteWorks.Text.Blank
import RouteWorks.Text.Split

/-!
# Spans of numbers

A span is written as one number, or as two ends with a colon between them, each of which may be
missing. One number alone is both ends. The ends belong to the span.
-/

namespace RouteWorks

/-- A span of numbers; an end that is not there does not bound it. -/
structure Span where
  low : Option Number.Binary
  high : Option Number.Binary
  deriving DecidableEq, Repr, Inhabited

namespace Span

/-- Reads one end, blanks around it aside; `none` when it is no number, and no end when nothing is
written. -/
def readEnd (cs : List Char) : Option (Option Number.Binary) :=
  let cs := Text.trimChars cs
  if cs.isEmpty then some none
  else match Number.readBinary Number.double cs with
    | .ok x => some (some x)
    | .error _ => none

/-- Reads a span. -/
def ofText? (spec : String) : Option Span :=
  let cs := Text.trimChars spec.toList
  match Text.cutAt? (· == ':') cs with
  | some (low, high) => do return { low := ← readEnd low, high := ← readEnd high }
  | none => do
    let exact ← (← readEnd cs)
    return { low := some exact, high := some exact }

/-- Whether a number lies in a span. -/
def holds (s : Span) (x : Number.Binary) : Bool :=
  (s.low.map fun low => low.le x).getD true && (s.high.map fun high => x.le high).getD true

end Span

/-- Whether a number lies in the span that a text writes; in none when it writes none. -/
def within (x : Number.Binary) (spec : String) : Bool :=
  ((Span.ofText? spec).map fun s => s.holds x).getD false

end RouteWorks
