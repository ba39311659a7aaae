import CsdlHighlight.Pattern.AtomReader
import CsdlHighlight.Text.Alphanumeric

/-!
Contract: the reading of what stands at the head of a group.

Owns:
- `GroupHead`, and `Cursor.readGroupHead`;
- the names of groups, and changes of flags.

Does not own: the body of a group.
-/

namespace CsdlHighlight

inductive GroupHead where
  /-- A group whose match is told apart, perhaps by a name. -/
  | apart
  /-- A group with other flags for its body. -/
  | body (changes : List FlagChange)
  /-- No group, but other flags for what stands behind. -/
  | flags (changes : List FlagChange)
deriving DecidableEq, Repr

namespace Cursor

/-! ## Names -/

def isNameChar (isFirst : Bool) (character : Char) : Bool :=
  if isFirst then
    character == '_' || Text.isAlphabetic character
  else
    character == '_' || character == '.' || character == '[' || character == ']' ||
      Text.isAlphanumeric character

/-- Step past the name of a group up to the sign behind it. -/
def readNameChars : Nat → Bool → Cursor → Except PatternFault Cursor
  | 0, _, cursor => .ok cursor
  | count + 1, isFirst, cursor =>
      match cursor.next? with
      | some '>' => .ok cursor
      | some character =>
          if isNameChar isFirst character then readNameChars count false cursor.step
          else .error ⟨.badName, cursor.mark, none⟩
      | none => .ok cursor

/-- Read the name of a group.  No two groups have the same one. -/
def readName (cursor : Cursor) : Outcome GroupHead :=
  match readNameChars cursor.rest.length true cursor with
  | .error fault => .error fault
  | .ok close =>
      let span := close.since cursor.spot
      let name := cursor.rest.take (close.spot.offset - cursor.spot.offset)
      if close.rest.isEmpty then
        fail .unclosedName close.here
      else if name.isEmpty then
        fail .emptyName span
      else
        match cursor.names.find? fun known => known.1 = name with
        | some (_, earlier) => .error ⟨.repeatedName, span, some earlier⟩
        | none => .ok (.apart, { close.step with names := (name, span) :: cursor.names })

/-! ## Flags -/

structure FlagList where
  changes : List FlagChange
  /-- Where each of the flags stands. -/
  spans : List (PatternFlag × Span)
  /-- Where the sign stands behind which flags are taken back. -/
  negation : Option Span
  /-- Whether that sign is the last that has been read. -/
  isDangling : Bool
deriving DecidableEq, Repr

namespace FlagList

def nothing : FlagList :=
  ⟨[], [], none, false⟩

def negate (list : FlagList) (span : Span) : Except PatternFault FlagList :=
  match list.negation with
  | some earlier => .error ⟨.repeatedNegation, span, some earlier⟩
  | none => .ok { list with negation := some span, isDangling := true }

def add (list : FlagList) (letter : Char) (span : Span) : Except PatternFault FlagList :=
  match PatternFlag.ofLetter? letter with
  | none => .error ⟨.unknownFlag, span, none⟩
  | some flag =>
      match list.spans.find? fun known => known.1 = flag with
      | some (_, earlier) => .error ⟨.repeatedFlag, span, some earlier⟩
      | none =>
          .ok
            { list with
              changes := list.changes ++ [⟨flag, list.negation.isNone⟩]
              spans := (flag, span) :: list.spans
              isDangling := false }

def finish (list : FlagList) : Except PatternFault (List FlagChange) :=
  match list.negation, list.isDangling with
  | some span, true => .error ⟨.danglingNegation, span, none⟩
  | _, _ => .ok list.changes

end FlagList

def readFlagList : Nat → FlagList → Cursor → Outcome (List FlagChange)
  | 0, _, cursor => fail .unfinishedFlags cursor.here
  | count + 1, list, cursor =>
      match cursor.next? with
      | none => fail .unfinishedFlags cursor.here
      | some letter =>
          if letter = ':' ∨ letter = ')' then
            list.finish.map fun changes => (changes, cursor)
          else
            match if letter = '-' then list.negate cursor.mark else list.add letter cursor.mark with
            | .ok list => readFlagList count list cursor.step
            | .error fault => .error fault

/-- Read the flags of a group whose parenthesis stands at `opening`.  Without any
they are taken for the sign of a repetition at `sign`. -/
def readFlags (opening sign : Span) (cursor : Cursor) : Outcome GroupHead :=
  if cursor.rest.isEmpty then
    fail .unclosedGroup opening
  else
    match readFlagList (cursor.rest.length + 1) .nothing cursor with
    | .error fault => .error fault
    | .ok (changes, close) =>
        if close.next? = some ':' then
          .ok (.body changes, close.step)
        else if changes.isEmpty then
          fail .nothingToRepeat sign
        else
          .ok (.flags changes, close.step)

/-! ## Heads -/

def readGroupHead (cursor : Cursor) : Outcome GroupHead :=
  let inner := cursor.advance
  match ["?=", "?!", "?<=", "?<!"].find? inner.sees with
  | some sign => fail .lookAround ((steps sign.length inner).since cursor.spot)
  | none =>
      if inner.sees "?P<" then
        readName (steps 3 inner)
      else if inner.sees "?<" then
        readName (steps 2 inner)
      else if inner.sees "?" then
        readFlags cursor.mark inner.here inner.step
      else
        .ok (.apart, inner)

end Cursor

end CsdlHighlight
