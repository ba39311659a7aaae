import CsdlHighlight.Category
import CsdlHighlight.Delimiter

/-!
Contract: the events of a highlighted text, in the order of the text.

Owns: `Event`, the interface between classification and the two renderings.
-/

namespace CsdlHighlight

/-- One piece of a highlighted text.

An escape event stands directly before the word in which the escape was
found, and the word no longer holds it. -/
inductive Event where
  | word (category : Category) (text : Text)
  | delimiter (mark : Delimiter)
  | escapedLineBreak
  | escapedTab
deriving DecidableEq, Repr

end CsdlHighlight
