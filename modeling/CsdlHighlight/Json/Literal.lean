import CsdlHighlight.Text.Basic

/-!
Contract: string literals of JSON.

Owns:
- the written form of a string;
- the reader of a literal, which returns what stands after it.

Does not own: the other values of JSON.
-/

namespace CsdlHighlight.Json

/-! ## Writing -/

/-- A hexadecimal escape of a control character, with two digits to spare. -/
def controlEscape (character : Char) : Text :=
  let digits := Text.hexadecimal character.toNat
  ['\\', 'u'] ++ List.replicate (4 - digits.length) '0' ++ digits

/-- A character inside a literal.  Quote, backslash and the control characters
are escaped, five of them by a letter; everything else stands for itself. -/
def escapeChar (character : Char) : Text :=
  if character = '"' then
    ['\\', '"']
  else if character = '\\' then
    ['\\', '\\']
  else if character = '\x08' then
    ['\\', 'b']
  else if character = '\x0c' then
    ['\\', 'f']
  else if character = '\n' then
    ['\\', 'n']
  else if character = '\r' then
    ['\\', 'r']
  else if character = '\t' then
    ['\\', 't']
  else if character.toNat < 0x20 then
    controlEscape character
  else
    [character]

def literal (text : Text) : Text :=
  '"' :: (text.flatMap escapeChar ++ ['"'])

/-! ## Reading -/

def letterEscape? (letter : Char) : Option Char :=
  match letter with
  | '"' => some '"'
  | '\\' => some '\\'
  | '/' => some '/'
  | 'b' => some '\x08'
  | 'f' => some '\x0c'
  | 'n' => some '\n'
  | 'r' => some '\r'
  | 't' => some '\t'
  | _ => none

def isHighSurrogate (number : Nat) : Bool :=
  0xD800 ≤ number && number ≤ 0xDBFF

def isLowSurrogate (number : Nat) : Bool :=
  0xDC00 ≤ number && number ≤ 0xDFFF

def pairValue (high low : Nat) : Nat :=
  0x10000 + (high - 0xD800) * 0x400 + (low - 0xDC00)

def consRead (character : Char) : Option (Text × Text) → Option (Text × Text) :=
  Option.map fun (read, rest) => (character :: read, rest)

/-- Read the inside of a literal up to its closing quote.

Control characters have to be escaped.  The two halves of a surrogate pair have
to stand next to each other: `pending` is a first half that waits for the
second one. -/
def readInside (pending : Option Nat) : Text → Option (Text × Text)
  | [] => none
  | '"' :: rest => if pending.isNone then some ([], rest) else none
  | '\\' :: 'u' :: a :: b :: c :: d :: rest =>
      match Text.hexValue? [a, b, c, d], pending with
      | none, _ => none
      | some number, none =>
          if isHighSurrogate number then
            readInside (some number) rest
          else
            (Text.scalar? number).bind fun character =>
              consRead character (readInside none rest)
      | some number, some high =>
          if isLowSurrogate number then
            (Text.scalar? (pairValue high number)).bind fun character =>
              consRead character (readInside none rest)
          else
            none
  | '\\' :: letter :: rest =>
      if pending.isNone then
        (letterEscape? letter).bind fun character =>
          consRead character (readInside none rest)
      else
        none
  | character :: rest =>
      if pending.isNone && 0x20 ≤ character.toNat then
        consRead character (readInside none rest)
      else
        none

def readLiteral : Text → Option (Text × Text)
  | '"' :: rest => readInside none rest
  | _ => none

end CsdlHighlight.Json
