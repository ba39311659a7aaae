import CsdlHighlight.Text.Blank

/-!
Contract: places in the written form of a pattern, and the reading position.

Owns:
- `Spot` and `Span`;
- `Cursor`, with its steps past single characters and past blanks and remarks.

Does not own: what the characters mean.
-/

namespace CsdlHighlight

/-- A place in a text: how many characters stand before it, and its line and
column, both counted from one. -/
structure Spot where
  offset : Nat
  line : Nat
  column : Nat
deriving DecidableEq, Repr

namespace Spot

def first : Spot :=
  ⟨0, 1, 1⟩

def past (spot : Spot) (character : Char) : Spot :=
  if character = '\n' then ⟨spot.offset + 1, spot.line + 1, 1⟩
  else ⟨spot.offset + 1, spot.line, spot.column + 1⟩

end Spot

/-- A part of a text, from one place to another. -/
structure Span where
  start : Spot
  stop : Spot
deriving DecidableEq, Repr

namespace Span

def isOneLine (span : Span) : Bool :=
  span.start.line == span.stop.line

def through (first last : Span) : Span :=
  ⟨first.start, last.stop⟩

end Span

/-- Where the reading of a pattern stands, with what has to be known there. -/
structure Cursor where
  spot : Spot
  rest : Text
  /-- Whether blanks mean nothing, and remarks stand behind number signs. -/
  loose : Bool
  /-- The names of groups so far, and where they stand. -/
  names : List (Text × Span)
deriving DecidableEq, Repr

namespace Cursor

def start (text : Text) : Cursor :=
  ⟨.first, text, false, []⟩

def sees (cursor : Cursor) (text : String) : Bool :=
  text.toList.isPrefixOf cursor.rest

def step (cursor : Cursor) : Cursor :=
  match cursor.rest with
  | character :: rest => { cursor with spot := cursor.spot.past character, rest := rest }
  | [] => cursor

def steps : Nat → Cursor → Cursor
  | 0, cursor => cursor
  | count + 1, cursor => steps count cursor.step

/-- The place and the text behind blanks and remarks.  A remark ends with its
line. -/
def pastBlanks : Bool → Spot → Text → Spot × Text
  | _, spot, [] => (spot, [])
  | inRemark, spot, character :: rest =>
      if inRemark then
        pastBlanks (character != '\n') (spot.past character) rest
      else if Text.isBlank character then
        pastBlanks false (spot.past character) rest
      else if character = '#' then
        pastBlanks true (spot.past character) rest
      else
        (spot, character :: rest)

def skip (cursor : Cursor) : Cursor :=
  if cursor.loose then
    let (spot, rest) := pastBlanks false cursor.spot cursor.rest
    { cursor with spot := spot, rest := rest }
  else
    cursor

/-- Step past a character, and past what means nothing behind it. -/
def advance (cursor : Cursor) : Cursor :=
  cursor.step.skip

def next? (cursor : Cursor) : Option Char :=
  cursor.rest.head?

/-- The character behind the next one.  Where blanks mean nothing it is the first
other one, and the number sign of a remark is taken for a blank; a text of
nothing else counts with its blanks. -/
def nextButOne? (cursor : Cursor) : Option Char :=
  let behind := cursor.rest.tail
  if cursor.loose then
    let solid := behind.dropWhile Text.isBlank
    let found := if solid.head? = some '#' then solid.tail.dropWhile Text.isBlank
      else solid
    if found.isEmpty then behind.head? else found.head?
  else
    behind.head?

def here (cursor : Cursor) : Span :=
  ⟨cursor.spot, cursor.spot⟩

def mark (cursor : Cursor) : Span :=
  ⟨cursor.spot, cursor.step.spot⟩

def since (cursor : Cursor) (start : Spot) : Span :=
  ⟨start, cursor.spot⟩

/-- The next characters that pass a test, at most so many, and the position behind
them.  What means nothing is stepped over behind each of them. -/
def gather (keep : Char → Bool) : Nat → Cursor → Text × Cursor
  | 0, cursor => ([], cursor)
  | count + 1, cursor =>
      match cursor.next? with
      | some character =>
          if keep character then
            let (more, behind) := gather keep count cursor.advance
            (character :: more, behind)
          else
            ([], cursor)
      | none => ([], cursor)

def gatherAll (keep : Char → Bool) (cursor : Cursor) : Text × Cursor :=
  gather keep cursor.rest.length cursor

end Cursor

end CsdlHighlight
