/-!
# Text inside markup

The five characters that markup gives a meaning are written as numeric character references.
-/

namespace RouteWorks.Text

/-- How a character is written inside markup. -/
def escapeMarkupChar : Char → String
  | '<' => "&#60;"
  | '>' => "&#62;"
  | '&' => "&#38;"
  | '"' => "&#34;"
  | '\'' => "&#39;"
  | c => c.toString

/-- A text as it is written inside markup. -/
def escapeMarkup (s : String) : String :=
  String.join (s.toList.map escapeMarkupChar)

end RouteWorks.Text
