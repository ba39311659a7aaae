import CsdlHighlight.Toml.Token

/-!
Contract: the texts that TOML strings stand for.

Owns:
- one reader per form of a string; each starts behind the opening delimiter and
  returns the text with what stands behind the closing one;
- `unquote?`, the text of a whole token.

Does not own: where a token ends in a document.
-/

namespace CsdlHighlight.Toml

def before (characters : Text) : Option (Text × Text) → Option (Text × Text) :=
  Option.map fun (read, rest) => (characters ++ read, rest)

def beforeScalar (digits : Text) (found : Option (Text × Text)) :
    Option (Text × Text) :=
  ((Text.hexValue? digits).bind Text.scalar?).bind fun character =>
    before [character] found

def letterEscape? (letter : Char) : Option Char :=
  match letter with
  | 'b' => some '\x08'
  | 't' => some '\t'
  | 'n' => some '\n'
  | 'f' => some '\x0c'
  | 'r' => some '\r'
  | 'e' => some '\x1b'
  | '"' => some '"'
  | '\\' => some '\\'
  | _ => none

def readBasic : Text → Option (Text × Text)
  | [] => none
  | '"' :: rest => some ([], rest)
  | '\\' :: 'x' :: a :: b :: rest => beforeScalar [a, b] (readBasic rest)
  | '\\' :: 'u' :: a :: b :: c :: d :: rest =>
      beforeScalar [a, b, c, d] (readBasic rest)
  | '\\' :: 'U' :: a :: b :: c :: d :: e :: f :: g :: h :: rest =>
      beforeScalar [a, b, c, d, e, f, g, h] (readBasic rest)
  | '\\' :: letter :: rest =>
      match letterEscape? letter with
      | some character => before [character] (readBasic rest)
      | none => none
  | character :: rest =>
      if isPlainChar character && character != '\\' then
        before [character] (readBasic rest)
      else
        none

def readLiteral : Text → Option (Text × Text)
  | [] => none
  | '\'' :: rest => some ([], rest)
  | character :: rest =>
      if isPlainChar character then
        before [character] (readLiteral rest)
      else
        none

/-- Whether nothing but blanks stands before the next newline. -/
def startsLineEnd (text : Text) : Bool :=
  match text.dropWhile isLineBlank with
  | '\n' :: _ => true
  | '\r' :: '\n' :: _ => true
  | _ => false

/-- Read a string between three double quotes.  A backslash at the end of a
line takes away the newline and every blank and newline after it; while this
goes on, `trimming` is set. -/
def readMultiBasic (trimming : Bool) : Text → Option (Text × Text)
  | [] => none
  | '"' :: '"' :: '"' :: rest => some (cutExtra '"' rest)
  | '\\' :: 'x' :: a :: b :: rest =>
      beforeScalar [a, b] (readMultiBasic false rest)
  | '\\' :: 'u' :: a :: b :: c :: d :: rest =>
      beforeScalar [a, b, c, d] (readMultiBasic false rest)
  | '\\' :: 'U' :: a :: b :: c :: d :: e :: f :: g :: h :: rest =>
      beforeScalar [a, b, c, d, e, f, g, h] (readMultiBasic false rest)
  | '\\' :: letter :: rest =>
      match letterEscape? letter with
      | some character => before [character] (readMultiBasic false rest)
      | none =>
          if startsLineEnd (letter :: rest) then
            readMultiBasic true (letter :: rest)
          else
            none
  | '\r' :: '\n' :: rest =>
      if trimming then
        readMultiBasic true rest
      else
        before ['\r', '\n'] (readMultiBasic false rest)
  | character :: rest =>
      if trimming && (isLineBlank character || character == '\n') then
        readMultiBasic true rest
      else if (isPlainChar character && character != '\\') ||
          character == '\n' then
        before [character] (readMultiBasic false rest)
      else
        none

def readMultiLiteral : Text → Option (Text × Text)
  | [] => none
  | '\'' :: '\'' :: '\'' :: rest => some (cutExtra '\'' rest)
  | '\r' :: '\n' :: rest => before ['\r', '\n'] (readMultiLiteral rest)
  | character :: rest =>
      if isPlainChar character || character == '\n' then
        before [character] (readMultiLiteral rest)
      else
        none

/-- A newline directly behind the opening quotes of a string of several lines
does not count. -/
def skipFirstNewline : Text → Text
  | '\n' :: rest => rest
  | '\r' :: '\n' :: rest => rest
  | rest => rest

def readToken? : Text → Option (Text × Text)
  | '"' :: '"' :: '"' :: rest => readMultiBasic false (skipFirstNewline rest)
  | '"' :: rest => readBasic rest
  | '\'' :: '\'' :: '\'' :: rest => readMultiLiteral (skipFirstNewline rest)
  | '\'' :: rest => readLiteral rest
  | _ => none

/-- The text of a string token.  The whole token has to be one string. -/
def unquote? (token : Text) : Option Text :=
  match readToken? token with
  | some (text, []) => some text
  | _ => none

end CsdlHighlight.Toml
