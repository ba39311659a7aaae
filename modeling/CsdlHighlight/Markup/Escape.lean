import CsdlHighlight.Text.Basic

/-!
Contract: the escaping of texts in markup.

Owns: escaping of element content and of attribute values between double
quotes.

Does not own: the elements that the texts are put into.
-/

namespace CsdlHighlight.Markup

def escapeTextChar (character : Char) : Text :=
  match character with
  | '&' => "&amp;".toList
  | '<' => "&lt;".toList
  | '>' => "&gt;".toList
  | other => [other]

def escapeAttributeChar (character : Char) : Text :=
  match character with
  | '"' => "&quot;".toList
  | other => escapeTextChar other

/-- A text as element content: it cannot open a tag or an entity. -/
def escapeText (text : Text) : Text :=
  text.flatMap escapeTextChar

/-- A text as attribute value: moreover, it cannot close the quotes. -/
def escapeAttribute (text : Text) : Text :=
  text.flatMap escapeAttributeChar

end CsdlHighlight.Markup
