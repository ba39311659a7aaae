import CsdlHighlight.Classification

/-!
Contract: events as lines for a terminal.

Owns: the colour of each category, the control sequences that set and reset a
style, and the preview of a list of events.

Does not own: whether the output is a terminal.
-/

namespace CsdlHighlight

namespace Category

/-- The number of the category's colour in the palette of 256. -/
def colour : Category → Nat
  | .predicate => 12
  | .operator => 9
  | .keyword => 13
  | .string => 10
  | .int => 2
  | .comment => 8

def isBold : Category → Bool
  | .keyword => true
  | _ => false

end Category

namespace Preview

def style (parameters : Text) : Text :=
  '\x1b' :: '[' :: (parameters ++ ['m'])

def begin (category : Category) : Text :=
  style ("38;5;".toList ++ Text.decimal category.colour) ++
    (if category.isBold then style ['1'] else [])

/-- The control sequence after a word.  Bold is only left by a full reset. -/
def reset (category : Category) : Text :=
  if category.isBold then style ['0'] else style "39".toList

/-- The preview of an event.  A plain preview holds no control sequence. -/
def ofEvent (plain : Bool) : Event → Text
  | .word category text =>
      if plain then text else begin category ++ text ++ reset category
  | .delimiter mark => [mark.character]
  | .escapedLineBreak => ['\n']
  | .escapedTab => [' ', ' ']

def ofEvents (plain : Bool) (events : List Event) : Text :=
  events.flatMap (ofEvent plain) ++ ['\n']

/-- The pieces in which a preview is written: one for each event, and the line
break.  Together they are `ofEvents`, by `flatten_pieces`. -/
def pieces (plain : Bool) (events : List Event) : List Text :=
  events.map (ofEvent plain) ++ [['\n']]

/-- However it is cut into pieces, the same preview is written. -/
theorem flatten_pieces (plain : Bool) (events : List Event) :
    (pieces plain events).flatten = ofEvents plain events := by
  rw [pieces, List.flatten_append, ← List.flatMap_def]
  rfl

end Preview

end CsdlHighlight
