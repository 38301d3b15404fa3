import RouteWorks.Command.Arguments

/-!
# Help pages

A help page says what a command does, how it is called, and what each argument is for. A summary
tells what an argument is for beside it, unless that is too long for a line: then, as in a full page,
it is told below the argument.
-/

namespace RouteWorks

/-- A line of a help page that stands below a label. -/
def HelpPage.below (s : String) : String := "          " ++ s

namespace Argument

/-- What stands for the value of an argument. -/
def placeholder (a : Argument) : String :=
  String.ofList (a.name.toList.map fun c => if c = '-' then '_' else c.toUpper)

/-- An operand as it is written. -/
def operandLabel (a : Argument) : String :=
  match a.presence with
  | .required => "<" ++ a.placeholder ++ ">"
  | .optional => "[" ++ a.placeholder ++ "]"
  | .repeated => "[" ++ a.placeholder ++ "]..."

/-- An option as it is written, by its long name. -/
def optionForm (a : Argument) : String :=
  "--" ++ a.name ++ if a.takesValue then " <" ++ a.placeholder ++ ">" else ""

/-- An option as it is written, with its letter when it has one. -/
def optionLabel (a : Argument) : String :=
  (match a.letter with
    | some c => "-" ++ c.toString ++ ", "
    | none => "    ") ++ a.optionForm

/-- The words that an argument can take. -/
def words (a : Argument) : List ChoiceWord :=
  match a.kind with
  | .choice words => words
  | _ => []

/-- What is added in brackets: the default, and in a summary the words to choose from. -/
def remarks (a : Argument) (isFull : Bool) : List String :=
  let default := a.default?.map fun d => "[default: " ++ d ++ "]"
  let words := a.words.map (·.word)
  let choices := if isFull || words.isEmpty then none
    else some ("[possible values: " ++ Text.join ", " words ++ "]")
  default.toList ++ choices.toList

/-- What a summary says about an argument. -/
def summary (a : Argument) : String := Text.join " " (a.about :: a.remarks false)

/-- The words to choose from, each with its meaning, in one column. -/
def wordList (a : Argument) : List String :=
  let width := (a.words.map (·.word.length)).foldl max 0
  a.words.map fun w =>
    "- " ++ w.word ++ ": " ++ Text.replicate (width - w.word.length) " " ++ w.about

/-- What a full page says below an argument. -/
def fullLines (a : Argument) : List String :=
  let text := a.fullAbout :: (a.remarks true).flatMap fun r => ["", r]
  let choices := if a.words.isEmpty then []
    else "" :: ("Possible values:" :: a.wordList).map HelpPage.below
  text.map HelpPage.below ++ choices

end Argument

namespace HelpPage

/-- How many characters go into a line. -/
def width : Nat := 100

/-- Whether the texts beside some labels are told below them: the column of the labels takes more
than two fifths of a line, and a text is longer than what is left. -/
def isCramped (column : Nat) (texts : List String) : Bool :=
  let taken := column + 12
  decide (taken ≤ width ∧ width * 2 < taken * 5) && texts.any fun t => width - taken < t.length

/-- A line of a list. -/
def indent (s : String) : String := "  " ++ s

/-- Labels with their texts beside them or, when these do not fit, below them. -/
def table (rows : List (String × String)) : List String :=
  let column := (rows.map (·.1.length)).foldl max 2
  if isCramped column (rows.map (·.2)) then
    rows.flatMap fun (label, text) => [indent label, below text]
  else
    rows.map fun (label, text) =>
      indent (label ++ Text.replicate (column - label.length) " " ++ indent text)

/-- Labels with the lines below each, and a blank line between each two. -/
def fullTable (rows : List (String × List String)) : List String :=
  (rows.map fun (label, lines) => indent label :: lines).intersperse [""] |>.flatten

/-- Arguments under their labels. -/
def arguments (label : Argument → String) (isFull : Bool) (as : List Argument) : List String :=
  if isFull then fullTable (as.map fun a => (label a, a.fullLines))
  else table (as.map fun a => (label a, a.summary))

/-- A list under its heading, after a blank line; nothing for an empty list. -/
def titled (title : String) (entries : List String) : List String :=
  if entries.isEmpty then [] else "" :: title :: entries

end HelpPage

/-- How a command is called. -/
def Usage.synopsis (u : Usage) (name : String) : String :=
  let optional := u.options.any fun a =>
    match a.kind, a.presence with
    | .stop _, _ | _, .required => false
    | _, _ => true
  let required := u.options.filter (·.presence = .required)
  Text.join " " (name :: (if optional then ["[OPTIONS]"] else []) ++
    required.map Argument.optionForm ++ u.operands.map Argument.operandLabel ++
    (if u.commands.isEmpty then [] else ["<COMMAND>"]))

/-- The help page of the command that is called by a name. -/
def Usage.help (u : Usage) (name : String) (isFull : Bool) : String :=
  -- Without options there is nothing more to tell.
  let isFull := isFull && !u.options.isEmpty
  Text.join "\n" (
    u.about :: "" :: ("Usage: " ++ u.synopsis name) ::
    HelpPage.titled "Commands:" (HelpPage.table u.commands) ++
    HelpPage.titled "Arguments:" (HelpPage.arguments Argument.operandLabel isFull u.operands) ++
    HelpPage.titled "Options:" (HelpPage.arguments Argument.optionLabel isFull u.options)) ++ "\n"

end RouteWorks
