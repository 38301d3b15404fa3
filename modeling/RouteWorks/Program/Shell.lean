import RouteWorks.Number.Literal
import RouteWorks.Program.Basic
import RouteWorks.Text.Octets

/-!
# Shell scripts

A machine with the programs `true` and `false`, on which an executable file can be a script for the
shell. Scripts are lists of simple commands: they write a line to a file, wait, or end.
-/

namespace RouteWorks.Shell

/-- The programs that are found by name, with the status they end with. -/
def installed : List (String × Nat) := [("true", 0), ("false", 1)]

/-- The directories of the programs that are found by name. -/
def searchPath : List String := ["/bin", "/usr/bin"]

/-- Cuts a line into words at blanks outside of quotes. The word so far is kept backwards; `none`
when there is none. -/
def splitWords (quote : Option Char) (word : Option (List Char)) : List Char → List String
  | [] => (word.map fun w => String.ofList w.reverse).toList
  | c :: cs =>
    match quote with
    | some q =>
      if c = q then splitWords none word cs
      else splitWords quote (some (c :: word.getD [])) cs
    | none =>
      if c = '"' ∨ c = '\x27' then splitWords (some c) (some (word.getD [])) cs
      else if c = ' ' ∨ c = '\t' then
        (word.map fun w => String.ofList w.reverse).toList ++ splitWords none none cs
      else splitWords none (some (c :: word.getD [])) cs

/-- A sign for writing to a file apart from the path that stands right behind it. -/
def splitSign (w : String) : List String :=
  match w.toList with
  | '>' :: '>' :: c :: cs => [">>", String.ofList (c :: cs)]
  | '>' :: c :: cs => if c = '>' ∨ c = '&' then [w] else [">", String.ofList (c :: cs)]
  | _ => [w]

/-- The words of a line with the arguments of the script put in. -/
def words (args : List String) (line : String) : List String :=
  (splitWords none none line.toList).flatMap fun w =>
    if w = "$@" ∨ w = "$*" then args else splitSign w

/-- What a script has come to. -/
structure State where
  files : FileSystem
  status : Nat := 0
  lasting : Bool := false
  ended : Bool := false

/-- Writes a line to a file, behind what is there or in place of it. -/
def writeLine (s : State) (dir : Place) (append : Bool) (path line : String) : State :=
  let old := if append then ((s.files.file? dir path).map (·.octets)).getD .empty else .empty
  match s.files.write? dir path (old ++ (line ++ "\n").toUTF8) with
  | some files => { s with files, status := 0 }
  | none => { s with status := 1 }

/-- Runs the words of one command. -/
def command (dir : Place) (s : State) : List String → State
  | "exec" :: rest =>
    let s := simple s rest
    { s with ended := true }
  | ws => simple s ws
where
  /-- Runs a command that is not replaced by another. -/
  simple (s : State) : List String → State
    | "echo" :: ws =>
      match ws.span fun w => w ≠ ">>" && w ≠ ">" with
      | (said, [to_, path]) => writeLine s dir (to_ = ">>") path (Text.join " " said)
      | _ => { s with status := 0 }
    | ["exit"] => { s with ended := true }
    | ["exit", n] =>
      { s with ended := true, status := Text.decimal n.toList % 256 }
    | "sleep" :: _ => { s with lasting := true, status := 0 }
    | name :: _ => { s with status := (installed.lookup name).getD 127 }
    | [] => s

/-- Runs the lines of a script. -/
def runLines (args : List String) (dir : Place) (s : State) (lines : List String) : State :=
  lines.foldl (fun s line =>
    if s.ended || line.toList.head? = some '#' then s else command dir s (words args line)) s

/-- Runs a script, if a text is one. -/
def runScript (fs : FileSystem) (dir : Place) (text : String) (args : List String) :
    Run × FileSystem :=
  match Text.lines text with
  | first :: lines =>
    if Text.startsWith first "#!/bin/sh" then
      let s := runLines args dir { files := fs } lines
      (.started s.status s.lasting, s.files)
    else (.unstarted, fs)
  | [] => (.unstarted, fs)

/-- The status of a program that is found by name or at its usual place. -/
def statusOf? (program : String) : Option Nat :=
  installed.findSome? fun (name, status) =>
    if program = name ∨ searchPath.any fun d => program = d ++ "/" ++ name then some status
    else none

/-- Runs a program in a directory that is there. -/
def programs : Programs := fun fs dir program args =>
  match statusOf? program with
  | some status => (.started status false, fs)
  | none =>
    if !program.toList.contains '/' then (.unstarted, fs)
    else
      match fs.file? dir program with
      | some data =>
        if data.executable then runScript fs dir (Text.textOf data.octets) args
        else (.unstarted, fs)
      | none => (.unstarted, fs)

end RouteWorks.Shell
