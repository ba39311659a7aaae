import CsdlHighlight.Classification
import CsdlHighlight.Markup.Escape

/-!
Contract: events as a fragment of markup.

Owns: the markup of each event, of a list of events and of a whole text.

Does not own: the widget and the page around a fragment.
-/

namespace CsdlHighlight.Markup

def blank : Text := "&nbsp;".toList

def lineBreak : Text := "<br/>".toList

def indent : Text := "&nbsp;&nbsp;".toList

def ofDelimiter : Delimiter → Text
  | .space => blank
  | .openBrace => ['{']
  | .closeBrace => ['}']
  | .openParen => ['(']
  | .closeParen => [')']
  | .newline => lineBreak
  | .tab => indent

/-- The markup of an event.  Words stand in an element with the style class of
their category, escaped when `escaping` is set and verbatim when it is not. -/
def ofEvent (escaping : Bool) : Event → Text
  | .word category text =>
      "<span class=\"".toList ++ category.styleClass ++ "\">".toList ++
        (if escaping then escapeText text else text) ++ "</span>".toList
  | .delimiter mark => ofDelimiter mark
  | .escapedLineBreak => lineBreak
  | .escapedTab => indent

def fragment (escaping : Bool) (events : List Event) : Text :=
  events.flatMap (ofEvent escaping)

def highlight (escaping : Bool) (text : Text) : Text :=
  fragment escaping (classify text)

end CsdlHighlight.Markup
