/-!
# Markup

Texts inside markup: the five characters that markup gives a meaning to are written as entities.
-/

namespace Autostart.Text

/-- How a character is written inside markup. -/
def markupChar : Char → List Char
  | '&' => "&amp;".toList
  | '<' => "&lt;".toList
  | '>' => "&gt;".toList
  | '"' => "&quot;".toList
  | '\'' => "&apos;".toList
  | c => [c]

/-- How a text is written inside markup. -/
def escapeMarkup (s : String) : String :=
  String.ofList (s.toList.flatMap markupChar)

end Autostart.Text
