import CsdlHighlight.Pattern.GroupReader
import CsdlHighlight.Pattern.SetReader

/-!
Contract: the reading of written patterns.

Owns:
- repetitions, sequences, choices and the bodies of groups;
- `WrittenPattern.read`.

Does not own: the heads of groups, sets and atoms, and what a pattern means.
-/

namespace CsdlHighlight

namespace Cursor

/-! ## Repetitions -/

def greatestCount : Nat := 4294967295

def readCount (cursor : Cursor) : Except PatternFault Nat × Cursor :=
  let start := steps (cursor.rest.takeWhile Text.isBlank).length cursor
  let (digits, close) := start.gatherAll Char.isDigit
  let span := close.since start.spot
  let behind := (close.gatherAll Text.isBlank).2
  let value := digits.foldl (fun value digit => 10 * value + (digit.toNat - '0'.toNat)) 0
  let count :=
    if digits.isEmpty then .error ⟨.missingNumber, span, none⟩
    else if value ≤ greatestCount then .ok value
    else .error ⟨.hugeNumber, span, none⟩
  (count, behind)

/-- How often a pattern is repeated: at least, and at most if there is a bound. -/
abbrev Bounds := Nat × Option Nat

/-- Read the bounds of a repetition behind its opening brace, which stands at
`start`.  Of two problems the one with the first number is told. -/
def readBounds (start : Spot) (cursor : Cursor) :
    Except PatternFault (Bounds × Cursor) :=
  let (least, sign) := readCount cursor
  match sign.next? with
  | none => fail .unclosedCount (sign.since start)
  | some ',' =>
      let second := sign.advance
      match second.next? with
      | none => fail .unclosedCount (second.since start)
      | some '\x7d' => least.map fun least => ((least, none), second)
      | some _ => do
          let least ← least
          let (most, close) := readCount second
          return ((least, some (← most)), close)
  | some _ => least.map fun least => ((least, some least), sign)

def pastLazy (cursor : Cursor) : Cursor :=
  if cursor.next? = some '?' then cursor.step else cursor

def readBraces (cursor : Cursor) : Outcome Bounds :=
  let inner := cursor.advance
  if inner.rest.isEmpty then
    fail .unclosedCount (inner.since cursor.spot)
  else
    match readBounds cursor.spot inner with
    | .error fault => .error fault
    | .ok (bounds, close) =>
        if close.next? = some '\x7d' then
          let behind := close.advance.pastLazy
          if bounds.2.all fun most => bounds.1 ≤ most then .ok (bounds, behind)
          else fail .descendingCount (behind.since cursor.spot)
        else
          fail .unclosedCount (close.since cursor.spot)

def readRepetition? (cursor : Cursor) : Option (Outcome Bounds) :=
  match cursor.next? with
  | some '*' => some (.ok ((0, none), cursor.step.pastLazy))
  | some '+' => some (.ok ((1, none), cursor.step.pastLazy))
  | some '?' => some (.ok ((0, some 1), cursor.step.pastLazy))
  | some '\x7b' => some (readBraces cursor)
  | _ => none

/-! ## Sequences, choices and groups -/

/-- A group that has been opened, or the whole pattern, as far as it has been
read.  Parts and branches stand in the reverse order. -/
structure OpenGroup where
  /-- The opening parenthesis; the whole pattern has none. -/
  opening : Option Span
  isApart : Bool
  changes : List FlagChange
  /-- Whether blanks mean nothing outside the group. -/
  wasLoose : Bool
  /-- Where the body begins. -/
  start : Spot
  branches : List WrittenPattern
  /-- Where the parts begin. -/
  partsStart : Spot
  parts : List WrittenPattern
deriving Repr

namespace OpenGroup

def whole : OpenGroup :=
  ⟨none, false, [], false, .first, [], .first, []⟩

def ofHead (opening : Cursor) (isApart : Bool) (changes : List FlagChange)
    (behind : Cursor) : OpenGroup :=
  ⟨some opening.mark, isApart, changes, opening.loose, behind.spot, [], behind.spot, []⟩

def add (group : OpenGroup) (part : WrittenPattern) : OpenGroup :=
  { group with parts := part :: group.parts }

def branch (group : OpenGroup) (cursor : Cursor) : WrittenPattern :=
  .ofParts group.parts.reverse (cursor.since group.partsStart)

/-- A group behind the sign of a choice. -/
def choose (group : OpenGroup) (cursor : Cursor) : OpenGroup :=
  { group with
    branches := group.branch cursor :: group.branches
    partsStart := cursor.step.spot
    parts := [] }

def body (group : OpenGroup) (cursor : Cursor) : WrittenPattern :=
  if group.branches.isEmpty then group.branch cursor
  else .choice (group.branch cursor :: group.branches).reverse (cursor.since group.start)

/-- The position behind a group whose closing parenthesis comes next. -/
def behind (group : OpenGroup) (cursor : Cursor) : Cursor :=
  { cursor.step with loose := group.wasLoose }

/-- A group whose closing parenthesis comes next.  The group stood open at
`opening`. -/
def close (group : OpenGroup) (opening : Span) (cursor : Cursor) : WrittenPattern :=
  .group group.isApart group.changes (group.body cursor)
    (cursor.step.since opening.start)

def repeatLast (group : OpenGroup) (sign : Cursor) :
    Except PatternFault (WrittenPattern × List WrittenPattern) :=
  match group.parts with
  | part :: parts =>
      if part.isRepeatable then .ok (part, parts)
      else .error ⟨.nothingToRepeat, sign.here, none⟩
  | [] => .error ⟨.nothingToRepeat, sign.here, none⟩

end OpenGroup

/-- Read a part that has no parts to be read apart: a sign, a set or an atom.  For
a set the length of the text is enough `fuel`. -/
def readPart (fuel : Nat) (cursor : Cursor) : Outcome WrittenPattern :=
  match cursor.next? with
  | some '[' => (readSet fuel cursor).map fun (set, behind) => (.set set, behind)
  | some '.' => .ok (.atom .any cursor.mark, cursor.step)
  | some '^' => .ok (.atom (.anchor .caret) cursor.mark, cursor.step)
  | some '$' => .ok (.atom (.anchor .dollar) cursor.mark, cursor.step)
  | _ =>
      (readAtom cursor).map fun (atom, behind) =>
        (.atom atom (behind.since cursor.spot), behind)

def readRepeated (group : OpenGroup) (cursor : Cursor) (read : Outcome Bounds) :
    Except PatternFault (OpenGroup × Cursor) := do
  let (part, parts) ← group.repeatLast cursor
  let ((least, most), behind) ← read
  let whole := WrittenPattern.repeated part least most (behind.since part.span.start)
  return ({ group with parts := whole :: parts }, behind)

def change (cursor : Cursor) (changes : List FlagChange) : Cursor :=
  { cursor with loose := FlagChange.apply changes .loose cursor.loose }

/-- Read a pattern up to the end of the text, with the groups around the
innermost one that is open.  Every step takes a character, so the length of the
text is enough `fuel`. -/
def readBody : Nat → OpenGroup → List OpenGroup → Cursor →
    Except PatternFault WrittenPattern
  | 0, group, _, cursor => .ok (group.body cursor)
  | fuel + 1, group, around, cursor =>
      let cursor := cursor.skip
      match cursor.next? with
      | none =>
          match group.opening with
          | some opening => .error ⟨.unclosedGroup, opening, none⟩
          | none => .ok (group.body cursor)
      | some '(' =>
          match readGroupHead cursor with
          | .error fault => .error fault
          | .ok (.flags changes, behind) =>
              let part := WrittenPattern.flags changes (behind.since cursor.spot)
              readBody fuel (group.add part) around (behind.change changes)
          | .ok (.body changes, behind) =>
              readBody fuel (.ofHead cursor false changes behind) (group :: around)
                (behind.change changes)
          | .ok (.apart, behind) =>
              readBody fuel (.ofHead cursor true [] behind) (group :: around) behind
      | some ')' =>
          match group.opening, around with
          | some opening, outer :: around =>
              readBody fuel (outer.add (group.close opening cursor)) around
                (group.behind cursor)
          | _, _ => .error ⟨.unopenedGroup, cursor.mark, none⟩
      | some '|' => readBody fuel (group.choose cursor) around cursor.step
      | some _ =>
          match readRepetition? cursor with
          | some read =>
              match readRepeated group cursor read with
              | .ok (group, behind) => readBody fuel group around behind
              | .error fault => .error fault
          | none =>
              match readPart fuel cursor with
              | .ok (part, behind) => readBody fuel (group.add part) around behind
              | .error fault => .error fault

end Cursor

namespace WrittenPattern

/-- The pattern written by a text.  Its parts stand at most `deepest` in one
another. -/
def read (text : Text) : Except PatternFault WrittenPattern :=
  match Cursor.readBody (text.length + 1) .whole [] (.start text) with
  | .error fault => .error fault
  | .ok pattern =>
      match pattern.deep? PatternProblem.deepest with
      | some span => .error ⟨.tooDeep, span, none⟩
      | none => .ok pattern

end WrittenPattern

end CsdlHighlight
