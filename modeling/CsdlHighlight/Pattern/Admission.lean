import CsdlHighlight.Pattern.Meaning
import CsdlHighlight.Pattern.Reader
import CsdlHighlight.Pattern.Weight

/-!
Contract: which texts are patterns.

Owns: `PatternRefusal`, with its message, and `Pattern.read`.

Does not own: the steps from a text to a pattern.
-/

namespace CsdlHighlight

inductive PatternRefusal where
  | faulty (fault : PatternFault)
  /-- The pattern is too large. -/
  | tooHeavy
deriving DecidableEq, Repr

namespace PatternRefusal

def message (refusal : PatternRefusal) (text : Text) : Text :=
  match refusal with
  | .faulty fault => fault.message text
  | .tooHeavy =>
      "Compiled regex exceeds size limit of ".toList ++ Text.decimal Pattern.heaviest ++
        " bytes.".toList

end PatternRefusal

namespace Pattern

def read (text : Text) : Except PatternRefusal Pattern :=
  match (WrittenPattern.read text).bind WrittenPattern.meaning with
  | .error fault => .error (.faulty fault)
  | .ok pattern => if pattern.isLight then .ok pattern else .error .tooHeavy

end Pattern

end CsdlHighlight
