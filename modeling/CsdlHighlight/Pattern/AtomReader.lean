import CsdlHighlight.Pattern.Written

/-!
Contract: the reading of atoms: single characters, and what stands behind a
backslash.

Owns: `Cursor.readAtom`.

Does not own: sets, groups and repetitions.
-/

namespace CsdlHighlight

namespace Cursor

/-- Something that has been read, and the position behind it. -/
abbrev Outcome (α : Type) := Except PatternFault (α × Cursor)

def fail {α : Type} (problem : PatternProblem) (span : Span) : Outcome α :=
  .error ⟨problem, span, none⟩

def isHexDigit (character : Char) : Bool :=
  (Text.hexDigit? character).isSome

def charOfDigits? (digits : Text) : Option Char :=
  (Text.hexValue? digits).bind Text.scalar?

def readDigits (start : Spot) (count : Nat) (cursor : Cursor) : Outcome Atom :=
  let (digits, behind) := gather isHexDigit count cursor
  if digits.length < count then
    match behind.next? with
    | none => fail .unfinishedEscape behind.here
    | some _ => fail .badHexadecimalDigit behind.mark
  else
    match charOfDigits? digits with
    | none => fail .badHexadecimal (behind.since cursor.spot)
    | some character =>
        .ok (.character ⟨character, count == 2, behind.since start⟩, behind)

/-- Read a character by its hexadecimal digits in braces, from the opening brace
on. -/
def readBracedDigits (start : Spot) (cursor : Cursor) : Outcome Atom :=
  let (digits, close) := cursor.advance.gatherAll isHexDigit
  match close.next? with
  | none => fail .unfinishedEscape (close.since cursor.spot)
  | some '\x7d' =>
      let behind := close.advance
      if digits.isEmpty then
        fail .emptyHexadecimal (behind.since cursor.spot)
      else
        match charOfDigits? digits with
        | none => fail .badHexadecimal (close.since cursor.step.spot)
        | some character => .ok (.character ⟨character, false, behind.since start⟩, behind)
  | some _ => fail .badHexadecimalDigit close.mark

/-- Read a character by its hexadecimal digits: so many, or any number in braces.
The position is at the letter behind the backslash. -/
def readHexadecimal (start : Spot) (count : Nat) (cursor : Cursor) : Outcome Atom :=
  let digits := cursor.advance
  match digits.next? with
  | none => fail .unfinishedEscape digits.here
  | some '\x7b' => readBracedDigits start digits
  | some _ => readDigits start count digits

/-- The query between braces: a name, or a name and a value with a sign between
them. -/
def query (text : Text) : Unicode.PropertyQuery :=
  match ["!=", ":", "="].findSome? fun sign => Text.splitFirst? sign.toList text with
  | some (property, value) => .valued property value
  | none => .named text

def readProperty (cursor : Cursor) (isNegated : Bool) : Outcome Atom :=
  let name := cursor.advance
  match name.next? with
  | none => fail .unfinishedEscape name.here
  | some '\x7b' =>
      let (text, close) := name.advance.gatherAll (· != '\x7d')
      if close.rest.isEmpty then
        fail .unfinishedEscape close.here
      else
        .ok (.property (query text) isNegated, close.step)
  | some '\\' => fail .badPropertyLetter name.mark
  | some letter => .ok (.property (.named [letter]) isNegated, name.advance)

def isWordAnchorChar (character : Char) : Bool :=
  character.isAlpha || character == '-'

def wordAnchor? (name : Text) : Option WordAnchor :=
  [("start", WordAnchor.start), ("end", .stop), ("start-half", .startHalf),
    ("end-half", .stopHalf)].findSome? fun (known, condition) =>
      if known.toList = name then some condition else none

def readWordAnchor (start : Spot) (cursor : Cursor) : Outcome Atom :=
  if cursor.next? = some '\x7b' then
    let name := cursor.advance
    match name.next? with
    | none => fail .unfinishedWordAnchor (name.since start)
    | some first =>
        if isWordAnchorChar first then
          let (text, close) := name.gatherAll isWordAnchorChar
          if close.next? = some '\x7d' then
            match wordAnchor? text with
            | some condition => .ok (.anchor (.word condition), close.step)
            | none => fail .unknownWordAnchor (close.since name.spot)
          else
            fail .unclosedWordAnchor (close.since cursor.spot)
        else
          .ok (.anchor (.word .border), cursor)
  else
    .ok (.anchor (.word .border), cursor)

/-- Whether a character stands for itself behind a backslash. -/
def isEscapable (character : Char) : Bool :=
  character.toNat < 0x80 && !character.isAlphanum && character != '<' &&
    character != '>'

/-- What a backslash and one letter stand for, if no more characters can belong to
them. -/
def simpleEscape? (letter : Char) : Option Atom :=
  match letter with
  | 'd' => some (.shorthand .digit false)
  | 'D' => some (.shorthand .digit true)
  | 's' => some (.shorthand .blank false)
  | 'S' => some (.shorthand .blank true)
  | 'w' => some (.shorthand .word false)
  | 'W' => some (.shorthand .word true)
  | 'A' => some (.anchor .textStart)
  | 'z' => some (.anchor .textStop)
  | 'B' => some (.anchor (.word .inside))
  | '<' => some (.anchor (.word .start))
  | '>' => some (.anchor (.word .stop))
  | _ => none

def escapedChar? (letter : Char) : Option Char :=
  match letter with
  | 'a' => some '\x07'
  | 'f' => some '\x0c'
  | 'n' => some '\n'
  | 'r' => some '\r'
  | 't' => some '\t'
  | 'v' => some '\x0b'
  | _ => if isEscapable letter then some letter else none

def readEscape (start : Spot) (cursor : Cursor) : Outcome Atom :=
  match cursor.next? with
  | none => fail .unfinishedEscape (cursor.since start)
  | some 'x' => readHexadecimal start 2 cursor
  | some 'u' => readHexadecimal start 4 cursor
  | some 'U' => readHexadecimal start 8 cursor
  | some 'p' => readProperty cursor false
  | some 'P' => readProperty cursor true
  | some 'b' => readWordAnchor start cursor.step
  | some letter =>
      let behind := cursor.step
      let span := behind.since start
      match simpleEscape? letter, escapedChar? letter with
      | some atom, _ => .ok (atom, behind)
      | none, some character => .ok (.character ⟨character, false, span⟩, behind)
      | none, none =>
          fail (if letter.isDigit then .backReference else .unknownEscape) span

def readAtom (cursor : Cursor) : Outcome Atom :=
  match cursor.next? with
  | some '\\' => readEscape cursor.spot cursor.step
  | some character =>
      .ok (.character ⟨character, false, cursor.mark⟩, cursor.step)
  | none => fail .unfinishedEscape cursor.here

end Cursor

end CsdlHighlight
