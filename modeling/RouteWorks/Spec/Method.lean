import RouteWorks.Fault
import RouteWorks.Text.Blank
import RouteWorks.Text.Case
import RouteWorks.Text.Split

/-!
# Request methods

The methods that a handler answers, in the order they were first named. No method at all means
every method.
-/

namespace RouteWorks

/-- A method that a router can register a handler for. -/
inductive Method where
  | get | post | put | delete | patch | head | options | trace
  deriving DecidableEq, Repr, Inhabited

namespace Method

/-- Every method. -/
def all : List Method := [get, post, put, delete, patch, head, options, trace]

/-- The method as requests write it. -/
def text : Method → String
  | get => "GET"
  | post => "POST"
  | put => "PUT"
  | delete => "DELETE"
  | patch => "PATCH"
  | head => "HEAD"
  | options => "OPTIONS"
  | trace => "TRACE"

/-- Reads a method in any case. -/
def ofText? (s : String) : Option Method :=
  all.find? fun m => m.text == Text.asciiUpper s

/-- The registration function of a method. -/
def routing (m : Method) : String := Text.asciiLower m.text

/-- Whether a character stands between methods. -/
def isSeparator (c : Char) : Bool := Text.isBlank c || c == ',' || c == '|'

/-- The methods named in a list of tokens, as they are written. -/
def parts (tokens : List String) : List String :=
  tokens.flatMap fun token => (Text.split isSeparator token).filter (· ≠ "")

/-- Adds a method at the end unless it is there. -/
def insert (ms : List Method) (m : Method) : List Method :=
  if ms.contains m then ms else ms ++ [m]

/-- Reads methods one after another, keeping the first mention of each. -/
def readParts (ms : List Method) : List String → Except Fault (List Method)
  | [] => .ok ms
  | part :: rest =>
    match ofText? part with
    | none => .error (.invalidMethod part)
    | some m => readParts (insert ms m) rest

/-- Reads a list of tokens. A token can name several methods, separated by blanks, commas or
bars. -/
def readTokens (tokens : List String) : Except Fault (List Method) :=
  readParts [] (parts tokens)

/-- The methods as one word; a star for every method. -/
def render (ms : List Method) : String :=
  if ms.isEmpty then "*" else Text.join "|" (ms.map text)

end Method

end RouteWorks
