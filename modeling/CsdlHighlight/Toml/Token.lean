import CsdlHighlight.Text.Basic

/-!
Contract: the tokens of a TOML document, cut out of it as they are written.

Owns:
- blanks, comments and line ends;
- where a string ends, told by its quotes alone;
- where any other scalar ends.

Does not own: whether what has been cut out is valid, and what it means.
-/

namespace CsdlHighlight.Toml

/-! ## Between the tokens -/

/-- Whether a character may stand in a string or a comment as it is, on one
line. -/
def isPlainChar (character : Char) : Bool :=
  character == '\t' || (0x20 ≤ character.toNat && character.toNat != 0x7F)

def isLineBlank (character : Char) : Bool :=
  character == ' ' || character == '\t'

def skipBlanks (text : Text) : Text :=
  text.dropWhile isLineBlank

/-- Skip blanks, newlines and comments; `commenting` is set inside a comment.
A comment holds no control characters. -/
def skipFiller (commenting : Bool) : Text → Option Text
  | [] => some []
  | '\n' :: rest => skipFiller false rest
  | '\r' :: '\n' :: rest => skipFiller false rest
  | character :: rest =>
      if commenting then
        if isPlainChar character then skipFiller true rest else none
      else if isLineBlank character then
        skipFiller false rest
      else if character = '#' then
        skipFiller true rest
      else
        some (character :: rest)

def skipLine (text : Text) : Text :=
  text.dropWhile (· != '\n')

def skipLineEnd (text : Text) : Option Text :=
  match skipBlanks text with
  | [] => some []
  | '\n' :: rest => skipFiller false rest
  | '\r' :: '\n' :: rest => skipFiller false rest
  | '#' :: rest => skipFiller true rest
  | _ => none

/-! ## Strings -/

def ahead (characters : Text) (cut : Text × Text) : Text × Text :=
  (characters ++ cut.1, cut.2)

/-- Cut behind the quote that closes a string on one line.  A quote behind a
backslash closes nothing.  Without a closing quote the token ends with its
line. -/
def cutBasic : Text → Text × Text
  | [] => ([], [])
  | '"' :: rest => (['"'], rest)
  | '\n' :: rest => ([], '\n' :: rest)
  | '\\' :: '"' :: rest => ahead ['\\', '"'] (cutBasic rest)
  | '\\' :: '\\' :: rest => ahead ['\\', '\\'] (cutBasic rest)
  | character :: rest => ahead [character] (cutBasic rest)

def cutLiteral : Text → Text × Text
  | [] => ([], [])
  | '\'' :: rest => (['\''], rest)
  | '\n' :: rest => ([], '\n' :: rest)
  | character :: rest => ahead [character] (cutLiteral rest)

/-- Cut behind the quotes that follow three closing ones.  Up to two more belong
to the string, since the closing ones are the last of a row. -/
def cutExtra (quote : Char) : Text → Text × Text
  | first :: second :: rest =>
      if first = quote then
        if second = quote then
          ([quote, quote], rest)
        else
          ([quote], second :: rest)
      else
        ([], first :: second :: rest)
  | [only] => if only = quote then ([quote], []) else ([], [only])
  | [] => ([], [])

/-- Cut behind the quotes that close a string of several lines.  Without them
the token ends with the document. -/
def cutMultiBasic : Text → Text × Text
  | [] => ([], [])
  | '"' :: '"' :: '"' :: rest => ahead ['"', '"', '"'] (cutExtra '"' rest)
  | '\\' :: '"' :: rest => ahead ['\\', '"'] (cutMultiBasic rest)
  | '\\' :: '\\' :: rest => ahead ['\\', '\\'] (cutMultiBasic rest)
  | character :: rest => ahead [character] (cutMultiBasic rest)

def cutMultiLiteral : Text → Text × Text
  | [] => ([], [])
  | '\'' :: '\'' :: '\'' :: rest =>
      ahead ['\'', '\'', '\''] (cutExtra '\'' rest)
  | character :: rest => ahead [character] (cutMultiLiteral rest)

def cutString? : Text → Option (Text × Text)
  | '"' :: '"' :: '"' :: rest => some (ahead ['"', '"', '"'] (cutMultiBasic rest))
  | '"' :: rest => some (ahead ['"'] (cutBasic rest))
  | '\'' :: '\'' :: '\'' :: rest =>
      some (ahead ['\'', '\'', '\''] (cutMultiLiteral rest))
  | '\'' :: rest => some (ahead ['\''] (cutLiteral rest))
  | _ => none

/-! ## Other tokens -/

/-- Whether a character belongs to no other token and to no blank or newline. -/
def isAtomChar (character : Char) : Bool :=
  ! (['.', '=', ',', '[', ']', '{', '}', ' ', '\t', '#', '\r', '\n'].contains
    character)

def cutAtom? (text : Text) : Option (Text × Text) :=
  if (text.takeWhile isAtomChar).isEmpty then
    none
  else
    some (text.takeWhile isAtomChar, text.dropWhile isAtomChar)

def atomFollows (text : Text) : Bool :=
  match skipBlanks text with
  | character :: _ =>
      isAtomChar character && character != '"' && character != '\''
  | [] => false

/-- Cut a scalar without quotes: atoms with dots between them.  Blanks belong
to it where another atom follows, since they can join a date and a time. -/
def cutScalar : Text → Text × Text
  | [] => ([], [])
  | character :: rest =>
      if isAtomChar character || character == '.' ||
          (isLineBlank character && atomFollows rest) then
        ahead [character] (cutScalar rest)
      else
        ([], character :: rest)

end CsdlHighlight.Toml
