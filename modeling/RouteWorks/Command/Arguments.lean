import RouteWorks.Text.Split

/-!
# Reading arguments

Arguments are options, flags and operands, in any order. An option takes the next argument, or what
follows an equals sign or its letter; letters of flags can be joined; after `--` there are operands
only. What is wrong is reported at the first argument that shows it.
-/

namespace RouteWorks

/-- Why a command does not run. -/
inductive UsageFault where
  | unknownArgument
  | unknownCommand
  /-- A value is missing or is none of those allowed. -/
  | badValue
  /-- A flag is given a value. -/
  | surplusValue
  | repeated
  | missingArgument
  | missingCommand
  /-- There are no arguments at all. -/
  | noArguments
  /-- Help is asked for, with a command or with the program as a whole, in full or as a summary. -/
  | help (command : Option String) (isFull : Bool)
  /-- The version is asked for. -/
  | version
  deriving DecidableEq, Repr, Inhabited

/-- A word that can be chosen. -/
structure ChoiceWord where
  word : String
  /-- What choosing it means. -/
  about : String
  deriving DecidableEq, Repr, Inhabited

/-- What an argument takes. -/
inductive ArgumentKind where
  /-- Nothing. -/
  | flag
  /-- Nothing; the command does not run. -/
  | stop (fault : UsageFault)
  /-- Any text. -/
  | text
  /-- A text that is not empty. -/
  | path
  /-- One of several words. -/
  | choice (words : List ChoiceWord)
  deriving DecidableEq, Repr, Inhabited

/-- How often an argument is given. -/
inductive Presence where
  | optional
  | required
  /-- Any number of times. -/
  | repeated
  deriving DecidableEq, Repr, Inhabited

/-- An option, a flag or an operand. -/
structure Argument where
  name : String
  letter : Option Char := none
  kind : ArgumentKind
  presence : Presence := .optional
  /-- What it is for. -/
  about : String
  /-- What stands in for `about` where there is room. -/
  fullAbout : String := about
  /-- The value that holds without it. -/
  default? : Option String := none
  deriving DecidableEq, Repr, Inhabited

namespace Argument

/-- Whether a value follows. -/
def takesValue (a : Argument) : Bool :=
  match a.kind with
  | .flag | .stop _ => false
  | _ => true

/-- Whether a value is allowed. -/
def admits (a : Argument) (v : String) : Bool :=
  match a.kind with
  | .path => v ≠ ""
  | .choice words => words.any (·.word = v)
  | _ => true

/-- The argument under its long name, which asks for help in full. -/
def spelledOut (a : Argument) : Argument :=
  match a.kind with
  | .stop (.help command _) => { a with kind := .stop (.help command true) }
  | _ => a

end Argument

/-- What a command takes. -/
structure Usage where
  /-- What it does. -/
  about : String
  options : List Argument := []
  operands : List Argument := []
  /-- The commands that can follow, with what they do. -/
  commands : List (String × String) := []
  deriving Repr, Inhabited

/-- Whether a word is the name of a command that can follow. -/
def Usage.isCommand (u : Usage) (s : String) : Bool := u.commands.any (·.1 = s)

/-- What has been read. -/
structure Given where
  /-- The arguments and their values; a flag has an empty one. -/
  values : List (String × String) := []
  /-- An argument whose value is not complete yet. -/
  pending : Option (Argument × Option String) := none
  /-- The number of operands. -/
  operands : Nat := 0
  /-- Whether `--` has been read. -/
  ended : Bool := false
  deriving Repr, Inhabited

namespace Given

/-- Adds an argument with its value. -/
def add (g : Given) (a : Argument) (v : Option String) : Except UsageFault Given :=
  match a.kind, v with
  | .stop f, _ => .error f
  | .flag, _ => if (g.values.lookup a.name).isSome then .error .repeated
    else .ok { g with values := g.values ++ [(a.name, "")] }
  | _, none => .error .badValue
  | _, some v =>
    if (g.values.lookup a.name).isSome then .error .repeated
    else if a.admits v then .ok { g with values := g.values ++ [(a.name, v)] }
    else .error .badValue

/-- Completes the pending argument. -/
def settle (g : Given) : Except UsageFault Given :=
  match g.pending with
  | none => .ok g
  | some (a, v) => { g with pending := none }.add a v

/-- Adds an argument, which takes the value attached to it or waits for one. -/
def take (g : Given) (a : Argument) (attached : Option String) : Except UsageFault Given := do
  let g ← g.settle
  if a.takesValue && attached.isNone then return { g with pending := some (a, none) }
  else g.add a attached

end Given

namespace Usage

/-- Takes an option with a long name. -/
def takeLong (u : Usage) (g : Given) (cs : List Char) : Except UsageFault Given := do
  let (name, value) := match Text.cutAt? (· == '=') cs with
    | some (name, value) => (String.ofList name, some (String.ofList value))
    | none => (String.ofList cs, none)
  match u.options.find? (·.name = name) with
  | none => .error .unknownArgument
  | some a =>
    if !a.takesValue && value.isSome then .error .surplusValue else g.take a.spelledOut value

/-- Takes joined letters. -/
def takeLetters (u : Usage) (g : Given) : List Char → Except UsageFault Given
  | [] => .ok g
  | c :: rest =>
    match u.options.find? (·.letter = some c) with
    | none => .error .unknownArgument
    | some a =>
      if a.takesValue then
        let value := match rest with
          | '=' :: v => v
          | v => v
        g.take a (if rest.isEmpty then none else some (String.ofList value))
      else do takeLetters u (← g.take a none) rest

/-- Takes an operand. -/
def takeOperand (u : Usage) (g : Given) (s : String) : Except UsageFault Given :=
  match u.operands[g.operands]? with
  | none =>
    if u.commands.isEmpty || (g.ended && u.isCommand s) then .error .unknownArgument
    else .error .unknownCommand
  | some a => do
    let g ← g.settle
    return { g with pending := some (a, some s), operands := g.operands + 1 }

/-- Reads arguments up to the name of a command. The result has what comes from that name on, and
a pending argument then stays pending. -/
def read (u : Usage) (g : Given) : List String → Except UsageFault (Given × List String)
  | [] => do return (← g.settle, [])
  | s :: rest =>
    let isWaiting := match g.pending with
      | some (_, none) => true
      | _ => false
    if g.ended then do u.read (← u.takeOperand g s) rest
    else if !isWaiting && u.isCommand s then .ok (g, s :: rest)
    else match s.toList with
      | ['-', '-'] => u.read { g with ended := true } rest
      | '-' :: '-' :: cs => do u.read (← u.takeLong g cs) rest
      | '-' :: c :: cs => do u.read (← u.takeLetters g (c :: cs)) rest
      | _ =>
        match g.pending with
        | some (a, none) => u.read { g with pending := some (a, some s) } rest
        | _ => do u.read (← u.takeOperand g s) rest

end Usage

end RouteWorks
