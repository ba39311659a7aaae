/-!
Contract: texts as lists of Unicode scalar values, and the search for a first
occurrence of a pattern in a text.

Owns:
- the type `Text`;
- `splitFirst?`, which cuts a text around the first occurrence of a pattern,
  and the tests and replacements read off it;
- the cut of a text at a separator;
- decimal and hexadecimal numerals.

Does not own: character classes, letter case, or byte encodings.
-/

namespace CsdlHighlight

/-- A text is the list of its Unicode scalar values, so that every rule of this
library is a recursion on the text itself. -/
abbrev Text := List Char

namespace Text

/-- Cut a text around the first occurrence of `pattern`: what stands before it
and what stands after it.  There is no answer when the pattern does not occur. -/
def splitFirst? (pattern : Text) : Text → Option (Text × Text)
  | [] => if pattern.isEmpty then some ([], []) else none
  | head :: tail =>
      if pattern.isPrefixOf (head :: tail) then
        some ([], (head :: tail).drop pattern.length)
      else
        (splitFirst? pattern tail).map fun (before, after) =>
          (head :: before, after)

/-- Whether `pattern` occurs in the text as a run of adjacent characters. -/
def occurs (pattern text : Text) : Bool :=
  (splitFirst? pattern text).isSome

/-- Put `replacement` in the place of the first occurrence of `pattern`.  A text
without the pattern stays as it is, and later occurrences are never touched. -/
def replaceFirst (pattern replacement text : Text) : Text :=
  match splitFirst? pattern text with
  | some (before, after) => before ++ replacement ++ after
  | none => text

def eraseFirst (pattern text : Text) : Text :=
  replaceFirst pattern [] text

/-- Cut a text at every separator.  There is one part more than there are
separators, and a part may be empty. -/
def cutAt (separator : Char) : Text → List Text
  | [] => [[]]
  | character :: rest =>
      if character = separator then
        [] :: cutAt separator rest
      else
        match cutAt separator rest with
        | [] => [[character]]
        | part :: parts => (character :: part) :: parts

def decimal (number : Nat) : Text :=
  Nat.toDigits 10 number

/-- The shortest hexadecimal numeral of a natural number, in small letters. -/
def hexadecimal (number : Nat) : Text :=
  Nat.toDigits 16 number

def capitalDigit (value : Nat) : Char :=
  (Nat.digitChar value).toUpper

def hexDigit? (digit : Char) : Option Nat :=
  if '0' ≤ digit ∧ digit ≤ '9' then
    some (digit.toNat - '0'.toNat)
  else if 'a' ≤ digit ∧ digit ≤ 'f' then
    some (digit.toNat - 'a'.toNat + 10)
  else if 'A' ≤ digit ∧ digit ≤ 'F' then
    some (digit.toNat - 'A'.toNat + 10)
  else
    none

/-- The number written by a list of hexadecimal digits, most significant first. -/
def hexValue? : List Char → Option Nat :=
  go 0
where
  /-- Continue a number whose digits so far are worth `value`. -/
  go (value : Nat) : List Char → Option Nat
    | [] => some value
    | digit :: rest =>
        match hexDigit? digit with
        | some worth => go (16 * value + worth) rest
        | none => none

/-- The character with a given scalar value; surrogates and numbers past the
last code point have none. -/
def scalar? (number : Nat) : Option Char :=
  if number.isValidChar then some (Char.ofNat number) else none

end Text

end CsdlHighlight
