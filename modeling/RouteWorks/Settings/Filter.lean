import RouteWorks.Number.Literal
import RouteWorks.Text.Blank
import RouteWorks.Text.Letter
import RouteWorks.Text.Split

/-!
# Log filters

A filter is a list of directives. Each of them gives a level to the targets that start with a text,
or to everything; the most specific one that applies counts, and so they are kept in that order.
-/

namespace RouteWorks

/-- How much is logged, from nothing to everything. -/
inductive LogLevel where
  | off | error | warn | info | debug | trace
  deriving DecidableEq, Repr, Inhabited

namespace LogLevel

/-- The word for a level. -/
def word : LogLevel → String
  | off => "off"
  | error => "error"
  | warn => "warn"
  | info => "info"
  | debug => "debug"
  | trace => "trace"

/-- All levels from the least to the greatest. -/
def all : List LogLevel := [off, error, warn, info, debug, trace]

/-- Reads a level: a word in any case, its number, or nothing for `error`. -/
def ofText? (s : String) : Option LogLevel :=
  let number := (Number.IntegerType.read ⟨false, 64⟩ s.toList).toOption.bind fun n => all[n.toNat]?
  number <|> if s = "" then some error else all.find? fun l => l.word = Text.asciiLower s

end LogLevel

/-- What notation log lines have. -/
inductive LogFormat where
  | pretty | json
  deriving DecidableEq, Repr, Inhabited

namespace LogFormat

/-- The word for a format. -/
def word : LogFormat → String
  | pretty => "pretty"
  | json => "json"

/-- The format that a word in any case names; any other word means `pretty`. -/
def ofText (s : String) : LogFormat :=
  if Text.asciiLower (Text.trim s) = "json" then json else pretty

end LogFormat

/-- A level for the targets that start with a text, or for everything. -/
structure LogDirective where
  target : Option String := none
  level : LogLevel
  deriving DecidableEq, Repr, Inhabited

namespace LogDirective

/-- The notation of a directive. -/
def text (d : LogDirective) : String :=
  match d.target with
  | some t => t ++ "=" ++ d.level.word
  | none => d.level.word

/-- Whether a character can begin a directive. -/
def isStart (c : Char) : Bool :=
  Text.isAlphanumeric c || c == '-' || c == ':' || c == '_'

/-- Reads a directive. A target without a level, or with an empty one, is logged completely. -/
def ofText? (s : String) : Option LogDirective := do
  let s := Text.trim s
  match s.toList with
  | [] => none
  | c :: cs =>
    if !isStart c || (c :: cs).contains '[' then none
    match Text.cut? '=' s with
    | none => return match LogLevel.ofText? s with
      | some level => { level }
      | none => { target := some s, level := .trace }
    | some (target, "") => return { target := some target, level := .trace }
    | some (target, level) => return { target := some target, level := ← LogLevel.ofText? level }

/-- Whether one directive comes before another: the longer target does, of equally long ones the
greater, and no target comes last. -/
def comesBefore (a b : LogDirective) : Bool :=
  match a.target, b.target with
  | none, _ => false
  | some _, none => true
  | some s, some t =>
    if s.utf8ByteSize = t.utf8ByteSize then decide (t < s) else t.utf8ByteSize < s.utf8ByteSize

/-- Puts a directive at its place; it takes the place of one with the same target. -/
def insert (d : LogDirective) : List LogDirective → List LogDirective
  | [] => [d]
  | e :: rest =>
    if d.target = e.target then d :: rest
    else if d.comesBefore e then d :: e :: rest
    else e :: insert d rest

end LogDirective

/-- A filter: directives in the order of their specificity. -/
structure LogFilter where
  directives : List LogDirective
  deriving DecidableEq, Repr, Inhabited

namespace LogFilter

/-- Reads a filter. One without directives logs errors only. -/
def ofText? (s : String) : Option LogFilter := do
  let parts := (Text.split (· == ',') s).filter (· ≠ "")
  let ds ← parts.mapM LogDirective.ofText?
  return ⟨if ds.isEmpty then [{ level := .error }] else ds.foldl (fun fs d => d.insert fs) []⟩

/-- The filter that a text writes, and `info` for a text that writes none. -/
def ofText (s : String) : LogFilter :=
  (ofText? s).getD ⟨[{ level := .info }]⟩

/-- The notation of a filter. -/
def text (f : LogFilter) : String := Text.join "," (f.directives.map LogDirective.text)

end LogFilter

end RouteWorks
