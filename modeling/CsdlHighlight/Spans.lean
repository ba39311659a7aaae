import CsdlHighlight.Delimiter
import CsdlHighlight.Word

/-!
Contract: strings and comments that run over several words.

Owns:
- `Spans`, what is open between two words;
- the category of a word inside its spans, and the spans after the word;
- the end of a line comment at a line break.

Does not own: the cut of a text into words.
-/

namespace CsdlHighlight

/-- The spans that are open between two words. -/
structure Spans where
  inString : Bool
  inLineComment : Bool
  inBlockComment : Bool
deriving DecidableEq, Repr

namespace Spans

def closed : Spans :=
  ⟨false, false, false⟩

def inComment (spans : Spans) : Bool :=
  spans.inLineComment || spans.inBlockComment

/-- Whether a word is a whole string: no string is open before it, and it both
starts and ends with a quote. -/
def isWholeString (spans : Spans) (word : Text) : Bool :=
  !spans.inString && Word.isQuoted word

/-- Whether a string is open after a word.  A word with a quote closes an open
string; with none open it opens one, unless it is a whole string. -/
def stringAfter (spans : Spans) (word : Text) : Bool :=
  if Word.hasQuote word then
    !spans.inString && !spans.isWholeString word
  else
    spans.inString

/-- Whether a word begins a block comment.  Inside a comment nothing begins
one, and a whole string hides its marks. -/
def beginsBlockComment (spans : Spans) (word : Text) : Bool :=
  !spans.inComment && !spans.isWholeString word && Word.opensBlockComment word

/-- Whether a word begins a line comment.  The mark of a block comment takes
precedence in a word that holds both. -/
def beginsLineComment (spans : Spans) (word : Text) : Bool :=
  !spans.inComment && !spans.isWholeString word &&
    !Word.opensBlockComment word && Word.opensLineComment word

/-- The spans after a word.  A block comment is closed only by a later word
than the one that began it. -/
def after (spans : Spans) (word : Text) : Spans :=
  { inString := spans.stringAfter word
    inLineComment := spans.inLineComment || spans.beginsLineComment word
    inBlockComment :=
      (spans.inBlockComment && !Word.closesBlockComment word) ||
        spans.beginsBlockComment word }

/-- The category of a word: a comment where one is open or begins, else a
string where one is open or the word holds a quote, else what the word is by
itself. -/
def category (spans : Spans) (word : Text) : Category :=
  if spans.inComment || spans.beginsBlockComment word ||
      spans.beginsLineComment word then
    .comment
  else if spans.inString || Word.hasQuote word then
    .string
  else
    Word.category word

/-- The spans after a delimiter: a line break closes a line comment, and no
other delimiter closes anything. -/
def afterDelimiter (spans : Spans) (delimiter : Delimiter) : Spans :=
  if delimiter = .newline then
    { spans with inLineComment := false }
  else
    spans

/-- Classify some words one after another, each with the spans after it. -/
def classifyWords : Spans → List Text → List (Category × Spans)
  | _, [] => []
  | spans, word :: rest =>
      (spans.category word, spans.after word) ::
        classifyWords (spans.after word) rest

end Spans

end CsdlHighlight
