import CsdlHighlight.Text.Printable
import CsdlHighlight.Text.Utf8

/-!
Contract: texts between double quotes in messages, so that every character of a
text can be told from its neighbours.

Owns:
- the quoted form of a text;
- the quoted form of bytes that may be no text.
-/

namespace CsdlHighlight.Text

def numberedChar (character : Char) : Text :=
  ['\\', 'u', '{'] ++ hexadecimal character.toNat ++ ['}']

/-- A character inside quotes.  Characters that cannot be printed and those that
would attach to their neighbour are shown by their number. -/
def quotedChar (character : Char) : Text :=
  if character = '\x00' then
    ['\\', '0']
  else if character = '\t' then
    ['\\', 't']
  else if character = '\r' then
    ['\\', 'r']
  else if character = '\n' then
    ['\\', 'n']
  else if character = '\\' then
    ['\\', '\\']
  else if character = '"' then
    ['\\', '"']
  else if isExtending character || !isPrintable character then
    numberedChar character
  else
    [character]

def quoted (text : Text) : Text :=
  '"' :: (text.flatMap quotedChar ++ ['"'])

/-! ## Bytes -/

/-- A byte that belongs to no character, by its two hexadecimal digits. -/
def quotedByte (byte : UInt8) : Text :=
  ['\\', 'x', capitalDigit (byte.toNat / 16), capitalDigit (byte.toNat % 16)]

/-- The character that some bytes begin with.  No character needs more than four
of them, and no shorter start of its bytes is a character. -/
def firstChar? (bytes : Bytes) : Option Char :=
  [1, 2, 3, 4].findSome? fun length =>
    match Utf8.decode? (bytes.take length) with
    | some [character] => some character
    | _ => none

/-- The inside of quoted bytes, of which the first `shown` belong to a character
that has been shown.  Among bytes a single quote is escaped as well. -/
def quotedBytesFrom (shown : Nat) : Bytes → Text
  | [] => []
  | byte :: rest =>
      match shown with
      | left + 1 => quotedBytesFrom left rest
      | 0 =>
          match firstChar? (byte :: rest) with
          | some character =>
              (if character = '\'' then ['\\', '\''] else quotedChar character) ++
                quotedBytesFrom ((Utf8.encodeChar character).length - 1) rest
          | none => quotedByte byte ++ quotedBytesFrom 0 rest

def quotedBytes (bytes : Bytes) : Text :=
  '"' :: (quotedBytesFrom 0 bytes ++ ['"'])

/-- A stray byte, one behind the start of a longer character, and both quotes. -/
example : quotedBytes [0xff, 0xe2, 0x82, 0x41, 0x27, 0x22, 0xc3, 0xa9] =
    "\"\\xFF\\xE2\\x82A\\'\\\"é\"".toList := by
  decide +kernel

end CsdlHighlight.Text
