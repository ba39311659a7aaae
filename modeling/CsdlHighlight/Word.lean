import CsdlHighlight.Category
import CsdlHighlight.Text.LowerCase

/-!
Contract: what can be said of a word without looking at the words around it.

Owns:
- the vocabulary, namespace and number rules, and the category they give;
- the marks that open and close strings and comments;
- the two escapes that a run of characters can hold, and their expansion.

Does not own: spans that run over several words.
-/

namespace CsdlHighlight.Word

/-! ## Category of a word outside every span -/

/-- Whether the word is an operator, in any letter case. -/
def isOperator (word : Text) : Bool :=
  operators.contains (Text.lowered word)

def isKeyword (word : Text) : Bool :=
  keywords.contains (Text.lowered word)

/-- Whether the word starts with `tag.`, in any letter case. -/
def startsWithTag : Text → Bool
  | first :: second :: third :: '.' :: _ =>
      (first == 't' || first == 'T') && (second == 'a' || second == 'A') &&
        (third == 'g' || third == 'G')
  | _ => false

/-- Whether `tag.` occurs in the word, in any letter case and at any place. -/
def isNamespaced : Text → Bool
  | [] => false
  | first :: rest => startsWithTag (first :: rest) || isNamespaced rest

/-- Whether a character is one of the ten ASCII digits. -/
def isDigit (character : Char) : Bool :=
  '0' ≤ character && character ≤ '9'

/-- Whether the text is an optional sign less than a number: at least one
digit, then an optional point, then any number of digits. -/
def isUnsignedDecimal (text : Text) : Bool :=
  !(text.takeWhile isDigit).isEmpty &&
    match text.dropWhile isDigit with
    | [] => true
    | '.' :: fraction => fraction.all isDigit
    | _ => false

/-- Whether the word is a signed decimal: an optional sign before an unsigned
decimal, and nothing else. -/
def isSignedDecimal (word : Text) : Bool :=
  match word with
  | '+' :: rest => isUnsignedDecimal rest
  | '-' :: rest => isUnsignedDecimal rest
  | _ => isUnsignedDecimal word

/-- The category of a word by itself.  A number comes before a keyword and a
keyword before an operator. -/
def category (word : Text) : Category :=
  if isSignedDecimal word then
    .int
  else if isKeyword word || isNamespaced word then
    .keyword
  else if isOperator word then
    .operator
  else
    .predicate

/-! ## Marks of strings and comments -/

def hasQuote (word : Text) : Bool :=
  word.contains '"'

/-- Whether the word both starts and ends with a double quote.  One quote alone
does both. -/
def isQuoted (word : Text) : Bool :=
  word.head? == some '"' && word.getLast? == some '"'

def opensBlockComment (word : Text) : Bool :=
  Text.occurs ['/', '*'] word

def closesBlockComment (word : Text) : Bool :=
  Text.occurs ['*', '/'] word

def opensLineComment (word : Text) : Bool :=
  Text.occurs ['/', '/'] word

end CsdlHighlight.Word

namespace CsdlHighlight

/-! ## Escapes -/

def lineBreakEscape : Text := ['\\', 'n']

def tabEscape : Text := ['\\', 't']

structure Expansion where
  lineBreak : Bool
  tab : Bool
  word : Text
deriving DecidableEq, Repr

namespace Expansion

/-- Expand a run: its first line break escape is taken out, and then the first
tab escape of what remains. -/
def ofRun (run : Text) : Expansion :=
  let withoutBreak := Text.eraseFirst lineBreakEscape run
  { lineBreak := Text.occurs lineBreakEscape run
    tab := Text.occurs tabEscape withoutBreak
    word := Text.eraseFirst tabEscape withoutBreak }

end Expansion

end CsdlHighlight
