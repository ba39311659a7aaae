import CsdlHighlight.Text.Basic

/-!
Contract: written strings of TOML, and the choice among their forms.

Owns:
- the four forms of a string and their delimiters;
- the first form that fits a text;
- the escapes of the two forms that have them.

Does not own: the reading of strings.
-/

namespace CsdlHighlight.Toml

inductive Quotation where
  /-- Between double quotes, with escapes. -/
  | basic
  /-- Between single quotes, verbatim. -/
  | literal
  /-- Between three double quotes, with escapes. -/
  | multiBasic
  /-- Between three single quotes, verbatim. -/
  | multiLiteral
deriving DecidableEq, Repr

/-- Whether a character can only be written as an escape.  Tab and newline are
control characters that can be written as they are. -/
def isControl (character : Char) : Bool :=
  (character.toNat < 0x20 && character != '\t' && character != '\n') ||
    character.toNat == 0x7F

namespace Quotation

def delimiter : Quotation → Text
  | .basic => ['"']
  | .literal => ['\'']
  | .multiBasic => ['"', '"', '"']
  | .multiLiteral => ['\'', '\'', '\'']

def isMulti : Quotation → Bool
  | .basic => false
  | .literal => false
  | .multiBasic => true
  | .multiLiteral => true

/-- The first form that holds a text without escapes other than that of a tab,
and otherwise the form with escapes on as many lines as the text has. -/
def choose (text : Text) : Quotation :=
  let plain := !text.any isControl
  if plain && !text.contains '\\' && !text.contains '"' &&
      !text.contains '\n' then
    .basic
  else if plain && !text.contains '\'' && !text.contains '\n' then
    .literal
  else if plain && !text.contains '\\' &&
      !Text.occurs ['"', '"', '"'] text then
    .multiBasic
  else if plain && !Text.occurs ['\'', '\'', '\''] text then
    .multiLiteral
  else if text.contains '\n' then
    .multiBasic
  else
    .basic

end Quotation

def numberEscape (character : Char) : Text :=
  ['\\', 'u', '0', '0', Text.capitalDigit (character.toNat / 16),
    Text.capitalDigit (character.toNat % 16)]

def escapeChar (character : Char) : Text :=
  if character = '\x08' then
    ['\\', 'b']
  else if character = '\t' then
    ['\\', 't']
  else if character = '\x0c' then
    ['\\', 'f']
  else if character = '\r' then
    ['\\', 'r']
  else if character = '\\' then
    ['\\', '\\']
  else if isControl character then
    numberEscape character
  else
    [character]

def escapeBasicChar (character : Char) : Text :=
  if character = '"' then
    ['\\', '"']
  else if character = '\n' then
    ['\\', 'n']
  else
    escapeChar character

/-- The inside of a string between three double quotes.  Two quotes in a row
stand as they are, and the third is escaped; `quotes` counts those directly
before the text. -/
def escapeMultiBasic (quotes : Nat) : Text → Text
  | [] => []
  | '"' :: rest =>
      if quotes = 2 then
        '\\' :: '"' :: escapeMultiBasic 0 rest
      else
        '"' :: escapeMultiBasic (quotes + 1) rest
  | character :: rest => escapeChar character ++ escapeMultiBasic 0 rest

namespace Quotation

def inside (quotation : Quotation) (text : Text) : Text :=
  match quotation with
  | .basic => text.flatMap escapeBasicChar
  | .literal => text
  | .multiBasic => escapeMultiBasic 0 text
  | .multiLiteral => text

/-- A string in a form.  A text of several lines starts on a line of its own,
and the newline before it does not count. -/
def write (quotation : Quotation) (text : Text) : Text :=
  quotation.delimiter ++
    (if quotation.isMulti && text.contains '\n' then ['\n'] else []) ++
    quotation.inside text ++ quotation.delimiter

end Quotation

def quote (text : Text) : Text :=
  (Quotation.choose text).write text

end CsdlHighlight.Toml
