import CsdlHighlight.Json.Literal

/-!
Contract: recognition of a JSON value whose content does not matter.

Owns:
- blanks between the tokens of JSON;
- readers that only check the form of strings, numbers and nested values.

Does not own: the values that somebody asked for.
-/

namespace CsdlHighlight.Json

def isSpacing (character : Char) : Bool :=
  character == ' ' || character == '\t' || character == '\n' ||
    character == '\r'

def skipSpacing (text : Text) : Text :=
  text.dropWhile isSpacing

/-- Skip the inside of a literal up to its closing quote.  The escapes have to
be well formed, but a surrogate may stand alone. -/
def skipInside : Text → Option Text
  | [] => none
  | '"' :: rest => some rest
  | '\\' :: 'u' :: a :: b :: c :: d :: rest =>
      if (Text.hexValue? [a, b, c, d]).isSome then skipInside rest else none
  | '\\' :: letter :: rest =>
      if (letterEscape? letter).isSome then skipInside rest else none
  | character :: rest =>
      if 0x20 ≤ character.toNat then skipInside rest else none

def isDigit (character : Char) : Bool :=
  '0' ≤ character && character ≤ '9'

def skipDigits : Text → Option Text
  | digit :: rest => if isDigit digit then some (rest.dropWhile isDigit) else none
  | [] => none

def skipWhole : Text → Option Text
  | '0' :: digit :: rest =>
      if isDigit digit then none else some (digit :: rest)
  | text => skipDigits text

def skipFraction : Text → Option Text
  | '.' :: rest => skipDigits rest
  | text => some text

def skipSign : Text → Text
  | '+' :: rest => rest
  | '-' :: rest => rest
  | text => text

def skipExponent : Text → Option Text
  | 'e' :: rest => skipDigits (skipSign rest)
  | 'E' :: rest => skipDigits (skipSign rest)
  | text => some text

def skipUnsigned (text : Text) : Option Text :=
  (skipWhole text).bind fun afterWhole =>
    (skipFraction afterWhole).bind skipExponent

inductive Expected where
  /-- A value, or the end of an array that has none. -/
  | firstItem
  /-- A value. -/
  | value
  /-- A key, or the end of an object that has none. -/
  | firstKey
  /-- A key. -/
  | key
  /-- A comma, or the end of the innermost array or object. -/
  | comma
deriving DecidableEq, Repr

/-- An array or an object that is still open. -/
inductive Enclosing where
  | array
  | object
deriving DecidableEq, Repr

namespace Enclosing

def closing : Enclosing → Char
  | .array => ']'
  | .object => '}'

def afterComma : Enclosing → Expected
  | .array => .value
  | .object => .key

end Enclosing

/-- Skip one value within open arrays and objects, the innermost first, until
they are all closed.  Every step takes at least one character, so the length of
the text is enough `fuel`. -/
def skipNested : Nat → List Enclosing → Expected → Text → Option Text
  | 0, _, _, _ => none
  | fuel + 1, enclosing, expected, text =>
      let finish (rest : Text) : Option Text :=
        match enclosing with
        | [] => some rest
        | _ :: _ => skipNested fuel enclosing .comma rest
      let close (rest : Text) : Option Text :=
        match enclosing.tail with
        | [] => some rest
        | outer => skipNested fuel outer .comma rest
      let value (found : Text) : Option Text :=
        match found with
        | 'n' :: 'u' :: 'l' :: 'l' :: rest => finish rest
        | 't' :: 'r' :: 'u' :: 'e' :: rest => finish rest
        | 'f' :: 'a' :: 'l' :: 's' :: 'e' :: rest => finish rest
        | '"' :: rest => (skipInside rest).bind finish
        | '-' :: rest => (skipUnsigned rest).bind finish
        | '[' :: rest => skipNested fuel (.array :: enclosing) .firstItem rest
        | '{' :: rest => skipNested fuel (.object :: enclosing) .firstKey rest
        | rest => (skipUnsigned rest).bind finish
      let key (found : Text) : Option Text :=
        match found with
        | '"' :: rest =>
            (skipInside rest).bind fun afterKey =>
              match skipSpacing afterKey with
              | ':' :: afterColon =>
                  skipNested fuel enclosing .value afterColon
              | _ => none
        | _ => none
      match expected, skipSpacing text with
      | .firstItem, ']' :: rest => close rest
      | .firstItem, found => value found
      | .value, found => value found
      | .firstKey, '}' :: rest => close rest
      | .firstKey, found => key found
      | .key, found => key found
      | .comma, ',' :: rest =>
          match enclosing with
          | [] => none
          | innermost :: _ =>
              skipNested fuel enclosing innermost.afterComma rest
      | .comma, found =>
          match found, enclosing with
          | character :: rest, innermost :: _ =>
              if character = innermost.closing then close rest else none
          | _, _ => none

def skipValue (text : Text) : Option Text :=
  skipNested (text.length + 1) [] .value text

end CsdlHighlight.Json
