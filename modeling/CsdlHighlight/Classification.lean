import CsdlHighlight.Event
import CsdlHighlight.Log
import CsdlHighlight.Piece
import CsdlHighlight.Sequence
import CsdlHighlight.Spans

/-!
Contract: classification of a text into events.

Owns:
- the events of one piece, given the spans open before it;
- classification from any spans, with the spans it ends in;
- `classify`, the classification of a whole text, and its log records.

Does not own: how events are shown.
-/

namespace CsdlHighlight

namespace Expansion

/-- The escape events of a run, the line break before the tab. -/
def escapes (expansion : Expansion) : List Event :=
  (if expansion.lineBreak then [.escapedLineBreak] else []) ++
    (if expansion.tab then [.escapedTab] else [])

end Expansion

namespace Piece

def classify (spans : Spans) : Piece → List Event × Spans
  | .delimiter mark => ([.delimiter mark], spans.afterDelimiter mark)
  | .run characters =>
      let expansion := Expansion.ofRun characters
      (expansion.escapes ++
          [.word (spans.category expansion.word) expansion.word],
        spans.after expansion.word)

def classifyAll : Spans → List Piece → List Event × Spans
  | spans, [] => ([], spans)
  | spans, piece :: rest =>
      let (events, between) := piece.classify spans
      let (laterEvents, last) := classifyAll between rest
      (events ++ laterEvents, last)

end Piece

/-- Classify a text that begins where the given spans are open. -/
def classifyFrom (spans : Spans) (text : Text) : List Event × Spans :=
  Piece.classifyAll spans (Piece.cut (Text.trim text))

/-- The events of a text.  Every text has events: what the language would
refuse is still highlighted, and open spans end with the text.  They are defined
piece by piece here; `Scan.run_steps` finds the same events in a single pass over the
steps of the text, with a buffer for the word that has begun. -/
def classify (text : Text) : List Event :=
  (classifyFrom .closed text).1

def openSpans (text : Text) : Spans :=
  (classifyFrom .closed text).2

/-- The log records of a classification: a warning for the developer when a
string or a block comment is still open, and always the size of the work. -/
def classificationLog (text : Text) : List LogRecord :=
  let source := "csdl_embed_syntax::classifier".toList
  let (events, spans) := classifyFrom .closed text
  let shown (flag : Bool) : Text :=
    if flag then "true".toList else "false".toList
  (if spans.inString || spans.inBlockComment then
    [⟨.debug, source,
      "Input ended inside an open span (string: ".toList ++
        shown spans.inString ++ ", block comment: ".toList ++
        shown spans.inBlockComment ++ ")".toList⟩]
  else
    []) ++
  [⟨.trace, source,
    "Classified ".toList ++
      Text.decimal (CharSequence.ofText text).length ++
      " chars into ".toList ++
      Text.decimal events.length ++ " events".toList⟩]

end CsdlHighlight
