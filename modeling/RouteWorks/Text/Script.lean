import RouteWorks.Text.Case
import RouteWorks.Text.Table.ScriptRuns

/-!
# Scripts

Every character belongs to one script, named by a four-letter code or a long name.
-/

namespace RouteWorks.Text

/-- Reads run lengths: digits, then a four-letter code, and so on. -/
private def readScripts (start count : Nat) (runs : Runs String) : List Char → Runs String
  | [] => runs
  | a :: rest =>
    if a.isDigit then readScripts start (10 * count + (a.toNat - 48)) runs rest
    else match rest with
      | b :: c :: d :: rest =>
        readScripts (start + count) 0 (runs.push (start, String.ofList [a, b, c, d])) rest
      | _ => runs

/-- The script code of every code point. -/
def scriptRuns : Runs String := readScripts 0 0 #[] Table.scriptRuns.toList

/-- The script code of a character. -/
def script (c : Char) : String := (scriptRuns.get? c.toNat).getD "Zzzz"

/-- A property name without what does not count in it: case, blanks, hyphens and underscores. -/
def looseName (s : String) : String :=
  String.ofList ((s.toList.filter fun c => c != ' ' && c != '_' && c != '-').map Char.toLower)

/-- Codes and long names in turn. -/
private def pairs : List String → List (String × String)
  | a :: b :: rest => (a, b) :: pairs rest
  | _ => []

/-- The script codes by loose name, short or long. -/
def scriptCodes : List (String × String) :=
  (pairs ((splitWhen (· == ' ') Table.scriptNames.toList).map String.ofList)).flatMap
    fun (code, name) => [(looseName code, code), (looseName name, code)]

end RouteWorks.Text
